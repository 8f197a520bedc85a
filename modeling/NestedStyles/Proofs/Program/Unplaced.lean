import NestedStyles.Proofs.Program.FromSource

/-!
# Compiling looks at no positions

Positions enter a compile error and nothing else. A tree without its positions compiles
to the same program, or fails with the same error without its position, and reports the same
events (`Program.ofTree_unplaced`). Main statement: trees with one normal form, up to positions,
compile alike, however their sources are laid out (`ofTree_sees_significant_shape`).
-/

namespace NestedStyles

section Errors

variable {ε ε' α β : Type}

theorem mapError_bind (first : Except ε α) (next : α → Except ε β) (change : ε → ε') :
    (first >>= next).mapError change =
      first.mapError change >>= fun value => (next value).mapError change := by
  cases first <;> rfl

theorem mapError_eq_ok_iff {result : Except ε α} {change : ε → ε'} {value : α} :
    result.mapError change = .ok value ↔ result = .ok value := by
  cases result <;> simp [Except.mapError]

end Errors

/-- The error without the position of the node at fault. -/
def CompileError.unplaced : CompileError → CompileError
  | unsupportedConstruct kind place _ => unsupportedConstruct kind place .unknown
  | malformedSelector kind _ => malformedSelector kind .unknown
  | malformedNode kind flaw _ => malformedNode kind flaw .unknown

/-- The outcome of some step of compiling, without the position in its error. -/
def unplacedOutcome {α : Type} (result : Except CompileError α) : Except CompileError α :=
  result.mapError CompileError.unplaced

theorem unplacedOutcome_bind {α β : Type} (first : Except CompileError α)
    (next : α → Except CompileError β) :
    unplacedOutcome (first >>= next) =
      unplacedOutcome first >>= fun value => unplacedOutcome (next value) :=
  mapError_bind first next CompileError.unplaced

theorem unplacedOutcome_pure {α : Type} (value : α) :
    unplacedOutcome (pure value) = pure value := rfl

theorem unplacedOutcome_ok_bind {α β : Type} (value : α) (next : α → Except CompileError β) :
    unplacedOutcome (.ok value) >>= next = next value := rfl

namespace Node

theorem kind_unplaced (node : Node) : node.unplaced.kind = node.kind := by
  cases node <;> rfl

theorem start_unplaced (node : Node) : node.unplaced.start = .unknown := by
  cases node <;> rfl

theorem children_unplaced (node : Node) : node.unplaced.children = unplacedAll node.children := by
  cases node <;> rfl

theorem length_unplacedAll (nodes : List Node) : (unplacedAll nodes).length = nodes.length := by
  induction nodes with
  | nil => rfl
  | cons node nodes ih => rw [unplacedAll, List.length_cons, List.length_cons, ih]

theorem isSignificant_unplaced (node : Node) :
    node.unplaced.IsSignificant ↔ node.IsSignificant := by
  rw [IsSignificant, kind_unplaced, IsSignificant]

mutual

theorem normalize_unplaced : (node : Node) → node.unplaced.normalize = node.normalize.unplaced
  | leaf .. => rfl
  | branch kind children start => by
      rw [unplaced, normalize, normalizeAll_unplacedAll children, normalize, unplaced]

theorem normalizeAll_unplacedAll :
    (nodes : List Node) → normalizeAll (unplacedAll nodes) = unplacedAll (normalizeAll nodes)
  | [] => rfl
  | node :: nodes => by
      rw [unplacedAll, normalizeAll, normalizeAll]
      by_cases significant : node.IsSignificant
      · rw [if_pos significant, if_pos (node.isSignificant_unplaced.2 significant), unplacedAll,
          normalize_unplaced node, normalizeAll_unplacedAll nodes]
      · rw [if_neg significant, if_neg (mt node.isSignificant_unplaced.1 significant),
          normalizeAll_unplacedAll nodes]

end

/-- What is taken from a node does not depend on positions, except in errors. -/
def IgnoresPositions {α : Type} (take : Node → Except CompileError α) : Prop :=
  ∀ node : Node, take node.unplaced = unplacedOutcome (take node)

section Texts

theorem unsupported_unplaced (node : Node) (place : Place) :
    CompileError.unsupported node.unplaced place =
      (CompileError.unsupported node place).unplaced := by
  cases node <;> rfl

theorem malformed_unplaced (node : Node) (flaw : Flaw) :
    CompileError.malformed node.unplaced flaw = (CompileError.malformed node flaw).unplaced := by
  cases node <;> rfl

theorem notInSelector_unplaced (node : Node) :
    CompileError.notInSelector node.unplaced = (CompileError.notInSelector node).unplaced := by
  cases node <;> rfl

theorem ignoresPositions_literal : IgnoresPositions literal := by
  intro node
  cases node <;> rfl

/-- Dimensions say the same without positions. -/
theorem ignoresPositions_dimensionText : IgnoresPositions dimensionText := by
  intro node
  unfold dimensionText
  rw [children_unplaced, malformed_unplaced]
  rcases node.children with _ | ⟨number, _ | ⟨unit, _ | _⟩⟩
  · rfl
  · rfl
  · dsimp only [unplacedAll]
    rw [ignoresPositions_literal, ignoresPositions_literal]
    simp only [unplacedOutcome_bind, unplacedOutcome_pure]
  · rfl

/-- Variables say the same without positions. -/
theorem ignoresPositions_variableText : IgnoresPositions variableText := by
  intro node
  unfold variableText
  rw [children_unplaced, malformed_unplaced]
  rcases node.children with _ | ⟨name, _ | _⟩
  · rfl
  · dsimp only [unplacedAll]
    rw [kind_unplaced, ignoresPositions_literal, ignoresPositions_dimensionText]
    split
    · simp only [unplacedOutcome_bind, unplacedOutcome_pure]
    · simp only [unplacedOutcome_bind, unplacedOutcome_pure]
    · rfl
  · rfl

/-- Values say the same without positions. -/
theorem ignoresPositions_valueText : IgnoresPositions valueText := by
  intro node
  unfold valueText
  rw [children_unplaced, malformed_unplaced]
  rcases node.children with _ | ⟨term, _ | _⟩
  · rfl
  · dsimp only [unplacedAll]
    rw [kind_unplaced]
    split
    · exact ignoresPositions_literal term
    · exact ignoresPositions_literal term
    · exact ignoresPositions_dimensionText term
    · exact ignoresPositions_variableText term
    · rw [unsupported_unplaced]
      rfl
  · rfl

/-- Parts of properties say the same without positions. -/
theorem ignoresPositions_propertyPart : IgnoresPositions propertyPart := by
  intro node
  unfold propertyPart
  rw [kind_unplaced]
  split
  · exact ignoresPositions_literal node
  · rw [unsupported_unplaced]
    rfl
  · rw [unsupported_unplaced]
    rfl

/-- Parts of names say the same without positions. -/
theorem ignoresPositions_identPart : IgnoresPositions identPart := by
  intro node
  unfold identPart
  rw [kind_unplaced]
  split
  · exact ignoresPositions_literal node
  · rw [notInSelector_unplaced]
    rfl

/-- What ignores positions in one node ignores them in a list of nodes. -/
theorem IgnoresPositions.mapM {α : Type} {take : Node → Except CompileError α}
    (ignores : IgnoresPositions take) (nodes : List Node) :
    (unplacedAll nodes).mapM take = unplacedOutcome (nodes.mapM take) := by
  induction nodes with
  | nil => rfl
  | cons node nodes ih =>
      rw [unplacedAll, List.mapM_cons, List.mapM_cons, ignores node, ih]
      simp only [unplacedOutcome_bind, unplacedOutcome_pure]

/-- A name of several parts, which must not be empty. -/
theorem IgnoresPositions.joined {part : Node → Except CompileError String}
    (ignores : IgnoresPositions part) (flaw : Flaw) :
    IgnoresPositions fun node => do
      let name := String.join (← node.children.mapM part)
      if name = "" then
        throw (.malformed node flaw)
      return name := by
  intro node
  dsimp only
  rw [children_unplaced, ignores.mapM, malformed_unplaced, unplacedOutcome_bind]
  apply bind_congr
  intro parts
  split <;> rfl

theorem ignoresPositions_propertyText : IgnoresPositions propertyText :=
  ignoresPositions_propertyPart.joined .noPropertyName

theorem ignoresPositions_identText : IgnoresPositions identText :=
  ignoresPositions_identPart.joined .noIdentifier

/-- Alternatives say the same without positions. -/
theorem ignoresPositions_alternative? : IgnoresPositions alternative? := by
  intro node
  unfold alternative?
  rw [kind_unplaced, ignoresPositions_identText]
  split
  · simp only [unplacedOutcome_bind, unplacedOutcome_pure]
  · simp only [unplacedOutcome_bind, unplacedOutcome_pure]
  · rfl
  · rw [notInSelector_unplaced]
    rfl

/-- Selectors say the same without positions. -/
theorem ignoresPositions_selectorGroup : IgnoresPositions selectorGroup := by
  intro node
  unfold selectorGroup
  rw [children_unplaced, ignoresPositions_alternative?.mapM, malformed_unplaced,
    unplacedOutcome_bind]
  apply bind_congr
  intro options
  split <;> rfl

/-- The parts of a declaration without positions are its parts without positions. -/
theorem declarationParts_unplaced (node : Node) :
    node.unplaced.declarationParts =
      unplacedOutcome
        (node.declarationParts >>= fun parts => .ok (parts.1.unplaced, parts.2.unplaced)) := by
  unfold declarationParts
  rw [children_unplaced, malformed_unplaced]
  rcases node.children with _ | ⟨property, _ | ⟨value, _ | _⟩⟩
  · rfl
  · rfl
  · dsimp only [unplacedAll]
    rw [kind_unplaced, kind_unplaced]
    split <;> rfl
  · rfl

/-- Declarations say the same without positions. -/
theorem ignoresPositions_declarationText : IgnoresPositions declarationText := by
  intro node
  unfold declarationText
  rw [declarationParts_unplaced, unplacedOutcome_bind, unplacedOutcome_bind, bind_assoc]
  apply bind_congr
  rintro ⟨property, value⟩
  dsimp only
  rw [unplacedOutcome_bind]
  change (property.unplaced.propertyText >>= fun name => value.unplaced.valueText >>= _) = _
  rw [ignoresPositions_propertyText, ignoresPositions_valueText]
  simp only [unplacedOutcome_bind, unplacedOutcome_pure]

/-- Definitions say the same without positions. -/
theorem ignoresPositions_definitionText : IgnoresPositions definitionText := by
  intro node
  unfold definitionText
  rw [declarationParts_unplaced, unplacedOutcome_bind, unplacedOutcome_bind, bind_assoc,
    unsupported_unplaced]
  apply bind_congr
  rintro ⟨property, value⟩
  rw [unplacedOutcome_ok_bind]
  dsimp only
  rw [children_unplaced]
  rcases property.children with _ | ⟨name, _ | _⟩
  · rfl
  · dsimp only [unplacedAll]
    rw [kind_unplaced]
    by_cases isVariable : name.kind = .variableName
    · rw [if_pos isVariable, if_pos isVariable, ignoresPositions_variableText,
        ignoresPositions_valueText]
      simp only [unplacedOutcome_bind, unplacedOutcome_pure]
    · rw [if_neg isVariable, if_neg isVariable]
      rfl
  · rfl

end Texts

end Node

namespace CompileM

variable {α β : Type}

/-- The action without the position in its error. It reports the same events. -/
def unplacedAction (action : CompileM α) : CompileM α :=
  .mk ⟨unplacedOutcome action.run.value, action.run.events⟩

theorem outcome_unplacedAction (action : CompileM α) :
    action.unplacedAction.outcome = unplacedOutcome action.outcome := rfl

theorem unplacedAction_bind (action : CompileM α) (next : α → CompileM β) :
    unplacedAction (action >>= next) =
      action.unplacedAction >>= fun value => (next value).unplacedAction := by
  obtain ⟨_ | _, events⟩ := action <;> rfl

theorem unplacedAction_pure (value : α) : unplacedAction (pure value) = pure value := rfl

theorem unplacedAction_throw (error : CompileError) :
    unplacedAction (throw error : CompileM α) = throw error.unplaced := rfl

theorem unplacedAction_lift (result : Except CompileError α) :
    unplacedAction (liftM result) = liftM (unplacedOutcome result) := by
  cases result <;> rfl

theorem unplacedAction_report (event : Event) :
    unplacedAction (liftM (Logged.report event)) = liftM (Logged.report event) := rfl

end CompileM

open CompileM

section Levels

variable {σ : Type} {collector : Collector σ}

/-- A ruleset compiles alike with and without its positions. -/
def CompilesUnplaced (node : Node) : Prop :=
  Ruleset.ofNode node.unplaced = (Ruleset.ofNode node).unplacedAction

/-- Adding an item without its positions adds the same, and fails with the same error without
its position. -/
theorem Collector.add_unplaced (text : Node.IgnoresPositions collector.text) {item : Node}
    (compiles : CompilesUnplaced item) (state : σ) :
    collector.add state item.unplaced = (collector.add state item).unplacedAction := by
  unfold Collector.add
  rw [Node.kind_unplaced]
  split
  · rw [text, unplacedAction_bind, unplacedAction_lift]
    rfl
  · rw [compiles, unplacedAction_bind]
    rfl
  · rw [Node.unsupported_unplaced, unplacedAction_throw]

/-- Collecting items without their positions collects the same, one item after another. -/
theorem Collector.foldlM_unplaced (text : Node.IgnoresPositions collector.text)
    {items : List Node} (compile : ∀ item ∈ items, CompilesUnplaced item) (state : σ) :
    (Node.unplacedAll items).foldlM collector.add state =
      unplacedAction (items.foldlM collector.add state) := by
  induction items generalizing state with
  | nil => rfl
  | cons item items ih =>
      obtain ⟨compiles, compile⟩ := List.forall_mem_cons.1 compile
      rw [Node.unplacedAll, List.foldlM_cons, List.foldlM_cons, unplacedAction_bind,
        collector.add_unplaced text compiles]
      simp only [ih compile]

end Levels

/-- A pair of a selector and a block compiles alike, if the items of the block do. -/
theorem compilesUnplaced_pair (kind : Kind) (selector : Node) {block : Node} (start : Position)
    (compile : ∀ item ∈ block.children, CompilesUnplaced item) :
    CompilesUnplaced (.branch kind [selector, block] start) := by
  have contents : BlockContents.ofNode block.unplaced =
      (BlockContents.ofNode block).unplacedAction := by
    rw [BlockContents.ofNode_eq_foldlM, BlockContents.ofNode_eq_foldlM, Node.children_unplaced,
      Collector.foldlM_unplaced Node.ignoresPositions_declarationText compile]
  unfold CompilesUnplaced
  rw [Node.unplaced, Node.unplacedAll, Node.unplacedAll, Node.unplacedAll, Ruleset.ofNode,
    Ruleset.ofNode, Node.kind_unplaced, Node.kind_unplaced, Node.unsupported_unplaced,
    Node.unsupported_unplaced, Node.ignoresPositions_selectorGroup, contents]
  -- The two checks of kinds come out the same, and what follows them agrees step by step.
  by_cases isSelector : selector.kind = .selector
  · by_cases isBlock : block.kind = .block
    · simp only [isSelector, isBlock, ne_eq, not_true, if_false, unplacedAction_bind,
        unplacedAction_lift, unplacedAction_report, unplacedAction_pure]
    · simp only [isSelector, isBlock, ne_eq, not_true, not_false_iff, if_false, if_true,
        unplacedAction_bind, unplacedAction_throw]
      rfl
  · simp only [isSelector, ne_eq, not_false_iff, if_true, unplacedAction_bind, unplacedAction_throw]
    rfl

/-- Rulesets compile alike with and without their positions. -/
theorem compilesUnplaced (node : Node) : CompilesUnplaced node := by
  induction node using Node.rulesetInduction with
  | other node parts =>
      have unplacedParts : node.unplaced.children.length ≠ 2 := by
        rwa [Node.children_unplaced, Node.length_unplacedAll]
      rw [CompilesUnplaced, Ruleset.ofNode_eq_throw parts, Ruleset.ofNode_eq_throw unplacedParts,
        Node.malformed_unplaced, unplacedAction_throw]
  | pair kind selector block start compile =>
      exact compilesUnplaced_pair kind selector start compile

namespace Program

/-- A tree without its positions compiles to the same program, or fails with the same error
without its position, and reports the same events on the way. -/
theorem ofTree_unplaced (tree : Node) : ofTree tree.unplaced = (ofTree tree).unplacedAction := by
  have children : tree.unplaced.normalize.children.foldlM Collector.stylesheet.add ∅ =
      unplacedAction (tree.normalize.children.foldlM Collector.stylesheet.add ∅) := by
    rw [Node.normalize_unplaced, Node.children_unplaced,
      Collector.foldlM_unplaced Node.ignoresPositions_definitionText
        fun item _ => compilesUnplaced item]
  rw [ofTree, ofTree, Collector.add_eq, children, Node.kind_unplaced, Node.unsupported_unplaced]
  by_cases isStylesheet : tree.kind = .stylesheet
  · simp only [isStylesheet, ne_eq, not_true, if_false, unplacedAction_bind, unplacedAction_report,
      unplacedAction_pure]
  · simp only [isStylesheet, ne_eq, not_false_iff, if_true, unplacedAction_bind,
      unplacedAction_throw]
    rfl

/-- Trees compile alike if their normal forms differ only in positions. -/
theorem ofTree_congr {first second : Node}
    (same : first.normalize.unplaced = second.normalize.unplaced) :
    (ofTree first).unplacedAction = (ofTree second).unplacedAction := by
  have kinds : first.kind = second.kind := by
    rw [← first.kind_normalize, ← Node.kind_unplaced, same, Node.kind_unplaced,
      Node.kind_normalize]
  have roots : CompileError.unsupported first.unplaced .root =
      CompileError.unsupported second.unplaced .root := by
    unfold CompileError.unsupported
    rw [Node.kind_unplaced, Node.start_unplaced, Node.kind_unplaced, Node.start_unplaced, kinds]
  rw [← ofTree_unplaced, ← ofTree_unplaced, ofTree, ofTree, Node.normalize_unplaced,
    Node.normalize_unplaced, same, Node.kind_unplaced, Node.kind_unplaced, kinds, roots]

/-- Trees with the same normal form, up to positions, have the same outcome, up to positions. -/
theorem outcome_ofTree_congr {first second : Node}
    (same : first.normalize.unplaced = second.normalize.unplaced) :
    unplacedOutcome (ofTree first).outcome = unplacedOutcome (ofTree second).outcome := by
  rw [← outcome_unplacedAction, ofTree_congr same, outcome_unplacedAction]

end Program

/-- Outcomes that are the same without positions are one value, or errors that differ only in
their positions. -/
theorem eq_or_errors_of_unplacedOutcome_eq {α : Type} {first second : Except CompileError α}
    (same : unplacedOutcome first = unplacedOutcome second) :
    (∃ value, first = .ok value ∧ second = .ok value) ∨
      ∃ error error', first = .error error ∧ second = .error error' ∧
        error.unplaced = error'.unplaced := by
  cases first with
  | ok value => exact .inl ⟨value, rfl, mapError_eq_ok_iff.1 same.symm⟩
  | error error =>
      cases second with
      | ok value => cases same
      | error error' => exact .inr ⟨error, error', rfl, rfl, Except.error.inj same⟩

/-- **Compiling sees only the significant shape of a tree.** Two trees whose normal forms differ
at most in positions compile to one and the same program, or both fail with the same sort of
error, about a node of the same kind and at the same place or with the same flaw. The events on
the way are the same, too. -/
theorem ofTree_sees_significant_shape {first second : Node}
    (same : first.normalize.unplaced = second.normalize.unplaced) :
    ((∃ program, (Program.ofTree first).run.value = .ok program ∧
        (Program.ofTree second).run.value = .ok program) ∨
      ∃ error error', (Program.ofTree first).run.value = .error error ∧
        (Program.ofTree second).run.value = .error error' ∧
        error.unplaced = error'.unplaced) ∧
    (Program.ofTree first).run.events = (Program.ofTree second).run.events := by
  have alike := Program.ofTree_congr same
  constructor
  · exact eq_or_errors_of_unplacedOutcome_eq (congrArg outcome alike)
  · exact congrArg (fun action => action.run.events) alike

/-- A ruleset with a comment in its block, behind nodes that lay the block out. -/
def commentedBlock (layout : List Node) (start : Position) : Node :=
  .branch .stylesheet
    [.branch .ruleset
      [.branch .selector [.branch .typeSelector [.leaf .ident "a" ⟨1, 1⟩] ⟨1, 1⟩] ⟨1, 1⟩,
        .branch .block (layout ++ [.leaf .comment "b" start]) ⟨1, 2⟩]
      ⟨1, 1⟩]
    .origin

/-- Blank space in front of a comment moves the error and changes nothing else. -/
theorem ofTree_sees_significant_shape_commentedBlock :
    let tight := commentedBlock [] ⟨1, 3⟩
    let spaced :=
      commentedBlock [.leaf .space " " ⟨1, 3⟩, .leaf .declarationDelimiter ";" ⟨1, 4⟩] ⟨1, 5⟩
    tight.normalize.unplaced = spaced.normalize.unplaced ∧
      (Program.ofTree tight).run.value = .error (.unsupportedConstruct .comment .block ⟨1, 3⟩) ∧
      ∃ error, (Program.ofTree spaced).run.value = .error error ∧
        error.unplaced = .unsupportedConstruct .comment .block .unknown := by
  intro tight spaced
  have same : tight.normalize.unplaced = spaced.normalize.unplaced := by decide
  have failed : (Program.ofTree tight).run.value =
      .error (.unsupportedConstruct .comment .block ⟨1, 3⟩) := rfl
  refine ⟨same, failed, ?_⟩
  obtain ⟨_, compiled, _⟩ | ⟨error, error', first, second, alike⟩ :=
    (ofTree_sees_significant_shape same).1
  · rw [failed] at compiled
    cases compiled
  · rw [failed] at first
    obtain rfl := Except.error.inj first
    exact ⟨error', second, alike.symm⟩

end NestedStyles
