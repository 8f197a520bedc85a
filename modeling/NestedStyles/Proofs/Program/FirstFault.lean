import NestedStyles.Proofs.Program.FromSource

/-!
# Which node is at fault

Compiling fails at one child of the stylesheet, whatever its other children are. What an item of
a level is refused with does not depend on what was collected before it
(`Collector.add_eq_error_iff`), so a level fails with the error of its first item that is refused
(`Collector.exists_first_of_foldlM_eq_error`). Each step of compiling fails only with an error
that names the node it works on or one below it (`Node.FaultsWithin`), and the nodes of a normal
form are the nodes that normalization keeps (`Node.contains_normalize_iff`). Main statement:
`ofTree_fails_with_first_failing_child`.
-/

namespace NestedStyles

namespace Node

/-- The node itself, or a node below it. -/
inductive Contains : Node → Node → Prop where
  | self (node : Node) : Contains node node
  | inside {node child found : Node} : child ∈ node.children → Contains child found →
      Contains node found

/-- The node itself, or a node below it that normalization does not remove: all nodes on the way
down to it are significant. -/
inductive Keeps : Node → Node → Prop where
  | self (node : Node) : Keeps node node
  | inside {node child found : Node} : child ∈ node.children → child.IsSignificant →
      Keeps child found → Keeps node found

/-- The nodes of a normal form are the normal forms of the nodes that are kept. -/
theorem contains_normalize_iff {node found : Node} :
    node.normalize.Contains found ↔ ∃ kept, node.Keeps kept ∧ found = kept.normalize := by
  constructor
  · intro contains
    -- The induction is on the way down in the normal form, which is therefore made a variable.
    generalize whole : node.normalize = normal at contains
    induction contains generalizing node with
    | self => exact ⟨node, .self node, whole.symm⟩
    | inside member _ ih =>
        rw [← whole, children_normalize] at member
        obtain ⟨child, present, significant, rfl⟩ := mem_normalizeAll_iff.1 member
        obtain ⟨kept, keeps, rfl⟩ := ih rfl
        exact ⟨kept, .inside present significant keeps, rfl⟩
  · rintro ⟨kept, keeps, rfl⟩
    induction keeps with
    | self => exact .self _
    | @inside node child _ member significant _ ih =>
        refine .inside ?_ ih
        rw [children_normalize]
        exact mem_normalizeAll_iff.2 ⟨child, member, significant, rfl⟩

end Node

/-- The kind of the node at fault. -/
def CompileError.kind : CompileError → Kind
  | unsupportedConstruct kind _ _ => kind
  | malformedSelector kind _ => kind
  | malformedNode kind _ _ => kind

/-- The error gives the kind and the position of the node. -/
def CompileError.Names (error : CompileError) (node : Node) : Prop :=
  error.kind = node.kind ∧ error.position = node.start

section Failures

variable {ε α β : Type}

theorem bind_eq_error_iff {first : Except ε α} {next : α → Except ε β} {error : ε} :
    first >>= next = .error error ↔
      first = .error error ∨ ∃ value, first = .ok value ∧ next value = .error error := by
  cases first <;> simp [bind, Except.bind]

/-- What only changes a value does not fail. -/
theorem bind_ok_eq_error_iff {first : Except ε α} {change : α → β} {error : ε} :
    (first >>= fun value => .ok (change value)) = .error error ↔ first = .error error := by
  cases first <;> simp [bind, Except.bind]

/-- A pass over a list fails with the error of one of its members. -/
theorem exists_mem_of_mapM_eq_error {take : α → Except ε β} {items : List α} {error : ε}
    (failed : items.mapM take = .error error) : ∃ item ∈ items, take item = .error error := by
  induction items with
  | nil => cases failed
  | cons item items ih =>
      rw [List.mapM_cons] at failed
      rcases bind_eq_error_iff.1 failed with here | ⟨value, _, later⟩
      · exact ⟨item, List.mem_cons_self, here⟩
      · obtain ⟨found, member, failed⟩ := ih (bind_ok_eq_error_iff.1 later)
        exact ⟨found, List.mem_cons_of_mem item member, failed⟩

end Failures

namespace Node

variable {node child : Node} {error : CompileError}

/-- The error names the node or one below it. -/
def HasCulprit (node : Node) (error : CompileError) : Prop :=
  ∃ culprit, node.Contains culprit ∧ error.Names culprit

/-- An error that names something below a child names something below the node. -/
theorem HasCulprit.ofChild (culprit : child.HasCulprit error) (member : child ∈ node.children) :
    node.HasCulprit error := by
  obtain ⟨found, contains, names⟩ := culprit
  exact ⟨found, .inside member contains, names⟩

theorem HasCulprit.unsupported (node : Node) (place : Place) :
    node.HasCulprit (.unsupported node place) := ⟨node, .self node, rfl, rfl⟩

theorem HasCulprit.malformed (node : Node) (flaw : Flaw) :
    node.HasCulprit (.malformed node flaw) := ⟨node, .self node, rfl, rfl⟩

theorem HasCulprit.notInSelector (node : Node) : node.HasCulprit (.notInSelector node) :=
  ⟨node, .self node, rfl, rfl⟩

/-- Taking something from a node fails only with an error that names the node or one below it. -/
def FaultsWithin {α : Type} (take : Node → Except CompileError α) : Prop :=
  ∀ {node : Node} {error : CompileError}, take node = .error error → node.HasCulprit error

section Texts

/-- A node that should be a leaf and is none is at fault itself. -/
theorem faultsWithin_literal : FaultsWithin literal := by
  intro node error failed
  cases node with
  | leaf => cases failed
  | branch kind children start =>
      obtain rfl := Except.error.inj failed
      exact .malformed _ _

/-- At fault in a dimension is the dimension or one of its parts. -/
theorem faultsWithin_dimensionText : FaultsWithin dimensionText := by
  intro node error failed
  unfold dimensionText at failed
  split at failed
  · next number unit children =>
      rcases bind_eq_error_iff.1 failed with first | ⟨_, _, second⟩
      · exact (faultsWithin_literal first).ofChild (by simp [children])
      · exact (faultsWithin_literal (bind_ok_eq_error_iff.1 second)).ofChild (by simp [children])
  · obtain rfl := Except.error.inj failed
    exact .malformed node _

/-- At fault in a variable is the variable or what its name is made of. -/
theorem faultsWithin_variableText : FaultsWithin variableText := by
  intro node error failed
  unfold variableText at failed
  split at failed
  · next name children =>
      have member : name ∈ node.children := by simp [children]
      split at failed
      · exact (faultsWithin_literal (bind_ok_eq_error_iff.1 failed)).ofChild member
      · exact (faultsWithin_dimensionText (bind_ok_eq_error_iff.1 failed)).ofChild member
      · obtain rfl := Except.error.inj failed
        exact .malformed node _
  · obtain rfl := Except.error.inj failed
    exact .malformed node _

/-- At fault in a value is the value, or something in its term. -/
theorem faultsWithin_valueText : FaultsWithin valueText := by
  intro node error failed
  unfold valueText at failed
  split at failed
  · next term children =>
      have member : term ∈ node.children := by simp [children]
      split at failed
      · exact (faultsWithin_literal failed).ofChild member
      · exact (faultsWithin_literal failed).ofChild member
      · exact (faultsWithin_dimensionText failed).ofChild member
      · exact (faultsWithin_variableText failed).ofChild member
      · obtain rfl := Except.error.inj failed
        exact (HasCulprit.unsupported term _).ofChild member
  · obtain rfl := Except.error.inj failed
    exact .malformed node _

/-- A part of a property that is no leaf with an identifier is at fault itself. -/
theorem faultsWithin_propertyPart : FaultsWithin propertyPart := by
  intro node error failed
  unfold propertyPart at failed
  split at failed
  · exact faultsWithin_literal failed
  · obtain rfl := Except.error.inj failed
    exact .unsupported node _
  · obtain rfl := Except.error.inj failed
    exact .unsupported node _

/-- A part of a name that is no leaf with an identifier is at fault itself. -/
theorem faultsWithin_identPart : FaultsWithin identPart := by
  intro node error failed
  unfold identPart at failed
  split at failed
  · exact faultsWithin_literal failed
  · obtain rfl := Except.error.inj failed
    exact .notInSelector node

/-- What is taken from all children of a node fails with an error of one of them. -/
theorem FaultsWithin.mapM {α : Type} {take : Node → Except CompileError α}
    (faults : FaultsWithin take) (failed : node.children.mapM take = .error error) :
    node.HasCulprit error := by
  obtain ⟨child, member, failed⟩ := exists_mem_of_mapM_eq_error failed
  exact (faults failed).ofChild member

/-- A name of several parts, which must not be empty. -/
theorem FaultsWithin.joined {part : Node → Except CompileError String}
    (faults : FaultsWithin part) (flaw : Flaw) :
    FaultsWithin fun node => do
      let name := String.join (← node.children.mapM part)
      if name = "" then
        throw (.malformed node flaw)
      return name := by
  intro node error failed
  rcases bind_eq_error_iff.1 failed with inner | ⟨parts, _, failed⟩
  · exact faults.mapM inner
  · dsimp only at failed
    split at failed
    · obtain rfl := Except.error.inj failed
      exact .malformed node flaw
    · cases failed

theorem faultsWithin_propertyText : FaultsWithin propertyText :=
  faultsWithin_propertyPart.joined .noPropertyName

theorem faultsWithin_identText : FaultsWithin identText :=
  faultsWithin_identPart.joined .noIdentifier

/-- At fault in an alternative of a selector is the alternative or a part of it. -/
theorem faultsWithin_alternative? : FaultsWithin alternative? := by
  intro node error failed
  unfold alternative? at failed
  split at failed
  · exact faultsWithin_identText (bind_ok_eq_error_iff.1 failed)
  · exact faultsWithin_identText (bind_ok_eq_error_iff.1 failed)
  · cases failed
  · obtain rfl := Except.error.inj failed
    exact .notInSelector node

/-- At fault in a selector is the selector or one of its alternatives. -/
theorem faultsWithin_selectorGroup : FaultsWithin selectorGroup := by
  intro node error failed
  unfold selectorGroup at failed
  rcases bind_eq_error_iff.1 failed with inner | ⟨options, _, failed⟩
  · exact faultsWithin_alternative?.mapM inner
  · split at failed
    · obtain rfl := Except.error.inj failed
      exact .malformed node _
    · cases failed

/-- A declaration without its two parts is at fault itself. -/
theorem faultsWithin_declarationParts : FaultsWithin declarationParts := by
  intro node error failed
  unfold declarationParts at failed
  split at failed
  · split at failed
    · cases failed
    · obtain rfl := Except.error.inj failed
      exact .malformed node _
  · obtain rfl := Except.error.inj failed
    exact .malformed node _

/-- A declaration has parts only if it has exactly a property and a value. -/
theorem children_of_declarationParts {property value : Node}
    (parts : node.declarationParts = .ok (property, value)) :
    node.children = [property, value] := by
  unfold declarationParts at parts
  split at parts
  · next children =>
      split at parts
      · obtain ⟨rfl, rfl⟩ := Prod.mk.inj (Except.ok.inj parts)
        exact children
      · cases parts
  · cases parts

/-- At fault in a declaration is the declaration, or something in its property or its value. -/
theorem faultsWithin_declarationText : FaultsWithin declarationText := by
  intro node error failed
  unfold declarationText at failed
  rcases bind_eq_error_iff.1 failed with whole | ⟨⟨property, value⟩, parts, failed⟩
  · exact faultsWithin_declarationParts whole
  · have children := children_of_declarationParts parts
    rcases bind_eq_error_iff.1 failed with first | ⟨_, _, second⟩
    · exact (faultsWithin_propertyText first).ofChild (by simp [children])
    · exact (faultsWithin_valueText (bind_ok_eq_error_iff.1 second)).ofChild (by simp [children])

/-- At fault in a definition is the declaration, or something in its property or its value. -/
theorem faultsWithin_definitionText : FaultsWithin definitionText := by
  intro node error failed
  unfold definitionText at failed
  rcases bind_eq_error_iff.1 failed with whole | ⟨⟨property, value⟩, parts, failed⟩
  · exact faultsWithin_declarationParts whole
  · have children := children_of_declarationParts parts
    dsimp only at failed
    split at failed
    · next name names =>
        split at failed
        · rcases bind_eq_error_iff.1 failed with first | ⟨_, _, second⟩
          · have inProperty : property.HasCulprit error :=
              (faultsWithin_variableText first).ofChild (by simp [names])
            exact inProperty.ofChild (by simp [children])
          · have inValue : value.HasCulprit error :=
              faultsWithin_valueText (bind_ok_eq_error_iff.1 second)
            exact inValue.ofChild (by simp [children])
        · obtain rfl := Except.error.inj failed
          exact .unsupported node _
    · obtain rfl := Except.error.inj failed
      exact .unsupported node _

end Texts

end Node

open CompileM

namespace Collector

variable {σ : Type} {collector : Collector σ} {item : Node} {error : CompileError}

/-- How an item ends the work on a level, whatever was collected before it. -/
inductive Refuses (collector : Collector σ) (item : Node) (error : CompileError) : Prop where
  | declaration : item.kind = .declaration → collector.text item = .error error →
      Refuses collector item error
  | ruleset : item.kind = .ruleset → (Ruleset.ofNode item).outcome = .error error →
      Refuses collector item error
  | other : item.kind ≠ .declaration → item.kind ≠ .ruleset →
      error = .unsupported item collector.place → Refuses collector item error

/-- Adding an item fails exactly if the item is refused, whatever was collected before. -/
theorem add_eq_error_iff {state : σ} :
    (collector.add state item).outcome = .error error ↔ collector.Refuses item error := by
  constructor
  · intro failed
    unfold add at failed
    split at failed
    · next kind =>
        rw [outcome_bind, outcome_lift] at failed
        exact .declaration kind (bind_ok_eq_error_iff.1 failed)
    · next kind =>
        rw [outcome_bind] at failed
        exact .ruleset kind (bind_ok_eq_error_iff.1 failed)
    · next noDeclaration noRuleset =>
        exact .other noDeclaration noRuleset (Except.error.inj failed).symm
  · rintro (⟨kind, failed⟩ | ⟨kind, failed⟩ | ⟨noDeclaration, noRuleset, rfl⟩)
    · simp only [add, kind]
      rw [outcome_bind, outcome_lift, failed]
      rfl
    · simp only [add, kind]
      rw [outcome_bind, failed]
      rfl
    · unfold add
      split
      · contradiction
      · contradiction
      · rfl

/-- A level fails with the error of the first item that is refused. -/
theorem exists_first_of_foldlM_eq_error {items : List Node} {state : σ}
    (failed : outcome (items.foldlM collector.add state) = .error error) :
    ∃ before item behind, items = before ++ item :: behind ∧
      (∀ earlier ∈ before, ∀ error, ¬ collector.Refuses earlier error) ∧
      collector.Refuses item error := by
  induction items generalizing state with
  | nil => cases failed
  | cons item items ih =>
      rw [List.foldlM_cons, outcome_bind] at failed
      rcases bind_eq_error_iff.1 failed with here | ⟨after, added, later⟩
      · exact ⟨[], item, items, rfl, List.forall_mem_nil _, add_eq_error_iff.1 here⟩
      · obtain ⟨before, found, behind, rfl, passed, refused⟩ := ih later
        refine ⟨item :: before, found, behind, rfl, ?_, refused⟩
        refine List.forall_mem_cons.2 ⟨fun error refuses => ?_, passed⟩
        rw [add_eq_error_iff.2 refuses] at added
        cases added

/-- A level with an item that is refused fails. -/
theorem exists_foldlM_eq_error {items : List Node} {state : σ} (member : item ∈ items)
    (refused : collector.Refuses item error) :
    ∃ error, outcome (items.foldlM collector.add state) = .error error := by
  induction items generalizing state with
  | nil => cases member
  | cons first items ih =>
      rw [List.foldlM_cons, outcome_bind]
      cases added : (collector.add state first).outcome with
      | error early => exact ⟨early, rfl⟩
      | ok after =>
          rcases List.mem_cons.1 member with rfl | later
          · rw [add_eq_error_iff.2 refused] at added
            cases added
          · exact ih later

/-- An item is refused with an error that names it or a node below it, if that holds of the
declarations and rulesets of the level. -/
theorem Refuses.hasCulprit (refused : collector.Refuses item error)
    (text : Node.FaultsWithin collector.text)
    (compile : (Ruleset.ofNode item).outcome = .error error → item.HasCulprit error) :
    item.HasCulprit error := by
  cases refused with
  | declaration _ failed => exact text failed
  | ruleset _ failed => exact compile failed
  | other _ _ same =>
      subst same
      exact .unsupported item _

end Collector

/-- A ruleset fails with an error that names it or a node below it. -/
theorem Ruleset.hasCulprit_of_failed {node : Node} {error : CompileError}
    (failed : (Ruleset.ofNode node).outcome = .error error) : node.HasCulprit error := by
  induction node using Node.rulesetInduction with
  | other node parts =>
      rw [Ruleset.ofNode_eq_throw parts] at failed
      obtain rfl := Except.error.inj failed
      exact .malformed node _
  | pair kind selector block start ih =>
      rw [outcome_ofNode_pair] at failed
      split at failed
      · obtain rfl := Except.error.inj failed
        exact (Node.HasCulprit.unsupported selector _).ofChild (by simp)
      · split at failed
        · obtain rfl := Except.error.inj failed
          exact (Node.HasCulprit.unsupported block _).ofChild (by simp)
        -- The block is compiled only once the selector has been.
        · rcases bind_eq_error_iff.1 failed with inSelector | ⟨_, _, inBlock⟩
          · exact (Node.faultsWithin_selectorGroup inSelector).ofChild (by simp)
          · obtain ⟨before, item, behind, items, _, refused⟩ :=
              Collector.exists_first_of_foldlM_eq_error (bind_ok_eq_error_iff.1 inBlock)
            have member : item ∈ block.children := by simp [items]
            have culprit : item.HasCulprit error :=
              refused.hasCulprit Node.faultsWithin_declarationText (ih item member)
            exact (culprit.ofChild member).ofChild (by simp)

/-- Where a list of normal forms is cut, the list of nodes can be cut. -/
theorem Node.exists_cut_of_normalizeAll_eq {nodes before' behind' : List Node} {item : Node}
    (cut : normalizeAll nodes = before' ++ item :: behind') :
    ∃ before child behind, nodes = before ++ child :: behind ∧ child.IsSignificant ∧
      normalizeAll before = before' ∧ child.normalize = item := by
  induction nodes generalizing before' with
  | nil => simp [normalizeAll] at cut
  | cons node nodes ih =>
      rw [normalizeAll] at cut
      by_cases significant : node.IsSignificant
      · rw [if_pos significant] at cut
        cases before' with
        | nil => exact ⟨[], node, nodes, rfl, significant, rfl, (List.cons.inj cut).1⟩
        | cons first before' =>
            obtain ⟨rfl, rest⟩ := List.cons.inj cut
            obtain ⟨before, child, behind, rfl, counts, rfl, same⟩ := ih rest
            refine ⟨node :: before, child, behind, rfl, counts, ?_, same⟩
            rw [normalizeAll, if_pos significant]
      · rw [if_neg significant] at cut
        obtain ⟨before, child, behind, rfl, counts, rfl, same⟩ := ih cut
        refine ⟨node :: before, child, behind, rfl, counts, ?_, same⟩
        rw [normalizeAll, if_neg significant]

/-- A child of a stylesheet that counts and is refused. -/
def Node.IsRejected (child : Node) (error : CompileError) : Prop :=
  child.IsSignificant ∧ Collector.stylesheet.Refuses child.normalize error

namespace Program

variable {tree child : Node} {error : CompileError}

/-- A child fails alone exactly if it is rejected. -/
theorem outcome_alone_eq_error_iff (start : Position) :
    (ofTree (.branch .stylesheet [child] start)).outcome = .error error ↔
      child.IsRejected error := by
  rw [Node.IsRejected, outcome_ofTree_eq, if_neg (not_not.2 (Node.kind_branch ..)), Node.normalize,
    Node.children_branch, Node.normalizeAll, Node.normalizeAll]
  by_cases significant : child.IsSignificant
  · have single : outcome ([child.normalize].foldlM Collector.stylesheet.add ∅) =
        (Collector.stylesheet.add ∅ child.normalize).outcome := by
      rw [List.foldlM_cons, outcome_bind]
      cases (Collector.stylesheet.add ∅ child.normalize).outcome <;> rfl
    rw [if_pos significant, single, Collector.add_eq_error_iff, and_iff_right significant]
  · rw [if_neg significant]
    simp [significant, outcome_pure]

/-- A child that is not rejected compiles as the only child of a stylesheet. -/
theorem exists_outcome_alone_eq_ok (start : Position)
    (passes : ∀ error, ¬ child.IsRejected error) :
    ∃ program, (ofTree (.branch .stylesheet [child] start)).outcome = .ok program := by
  cases alone : (ofTree (.branch .stylesheet [child] start)).outcome with
  | ok program => exact ⟨program, rfl⟩
  | error error => exact absurd ((outcome_alone_eq_error_iff start).1 alone) (passes error)

/-- A stylesheet with a child that is rejected fails. -/
theorem exists_outcome_eq_error (root : tree.kind = .stylesheet) (member : child ∈ tree.children)
    (rejected : child.IsRejected error) : ∃ error, (ofTree tree).outcome = .error error := by
  obtain ⟨significant, refused⟩ := rejected
  rw [outcome_ofTree_eq, if_neg (not_not.2 root), Node.children_normalize]
  have listed : child.normalize ∈ Node.normalizeAll tree.children :=
    Node.mem_normalizeAll_iff.2 ⟨child, member, significant, rfl⟩
  exact Collector.exists_foldlM_eq_error listed refused

/-- A stylesheet that fails does so at its first child that is rejected. -/
theorem exists_first_of_outcome_eq_error (root : tree.kind = .stylesheet)
    (failed : (ofTree tree).outcome = .error error) :
    ∃ before child behind, tree.children = before ++ child :: behind ∧
      (∀ earlier ∈ before, ∀ error, ¬ earlier.IsRejected error) ∧ child.IsRejected error := by
  rw [outcome_ofTree_eq, if_neg (not_not.2 root), Node.children_normalize] at failed
  obtain ⟨_, _, _, cut, passed, refused⟩ := Collector.exists_first_of_foldlM_eq_error failed
  obtain ⟨before, child, behind, whole, significant, rfl, rfl⟩ :=
    Node.exists_cut_of_normalizeAll_eq cut
  refine ⟨before, child, behind, whole, ?_, significant, refused⟩
  rintro earlier member error ⟨counts, refuses⟩
  have listed : earlier.normalize ∈ Node.normalizeAll before :=
    Node.mem_normalizeAll_iff.2 ⟨earlier, member, counts, rfl⟩
  exact passed earlier.normalize listed error refuses

end Program

/-- What a child is rejected with names the child or a node below it that normalization keeps. -/
theorem Node.IsRejected.exists_kept {child : Node} {error : CompileError}
    (rejected : child.IsRejected error) :
    ∃ node, child.Keeps node ∧ error.kind = node.kind ∧ error.position = node.start := by
  obtain ⟨culprit, contains, kind, position⟩ :=
    rejected.2.hasCulprit Node.faultsWithin_definitionText Ruleset.hasCulprit_of_failed
  obtain ⟨node, keeps, rfl⟩ := Node.contains_normalize_iff.1 contains
  rw [node.kind_normalize] at kind
  rw [node.start_normalize] at position
  exact ⟨node, keeps, kind, position⟩

/-- **Compile errors are local, and the first one counts.** A stylesheet fails to compile exactly
if one of its significant children does, alone in a stylesheet. The error is then that of the
first child that fails alone, and its kind and its position are those of one node, the child or
one below it, that normalization keeps. -/
theorem ofTree_fails_with_first_failing_child {tree : Node} (root : tree.kind = .stylesheet)
    (start : Position) :
    ((∃ error, (Program.ofTree tree).run.value = .error error) ↔
      ∃ child ∈ tree.children, child.IsSignificant ∧
        ∃ error, (Program.ofTree (.branch .stylesheet [child] start)).run.value =
          .error error) ∧
    ∀ error, (Program.ofTree tree).run.value = .error error →
      ∃ before child behind, tree.children = before ++ child :: behind ∧ child.IsSignificant ∧
        (∀ earlier ∈ before, ∃ program,
          (Program.ofTree (.branch .stylesheet [earlier] start)).run.value = .ok program) ∧
        (Program.ofTree (.branch .stylesheet [child] start)).run.value = .error error ∧
        ∃ node, child.Keeps node ∧ error.kind = node.kind ∧ error.position = node.start := by
  refine ⟨⟨?_, ?_⟩, ?_⟩
  · rintro ⟨error, failed⟩
    obtain ⟨before, child, behind, whole, _, rejected⟩ :=
      Program.exists_first_of_outcome_eq_error root failed
    have alone := (Program.outcome_alone_eq_error_iff start).2 rejected
    exact ⟨child, by simp [whole], rejected.1, error, alone⟩
  · rintro ⟨child, member, _, error, alone⟩
    have rejected := (Program.outcome_alone_eq_error_iff start).1 alone
    exact Program.exists_outcome_eq_error root member rejected
  · intro error failed
    obtain ⟨before, child, behind, whole, passed, rejected⟩ :=
      Program.exists_first_of_outcome_eq_error root failed
    refine ⟨before, child, behind, whole, rejected.1, ?_, ?_, rejected.exists_kept⟩
    · intro earlier member
      exact Program.exists_outcome_alone_eq_ok start (passed earlier member)
    · exact (Program.outcome_alone_eq_error_iff start).2 rejected

/-- Blank space, a ruleset with a comment inside its block, and a comment behind it. -/
def twoComments : Node :=
  .branch .stylesheet
    [.leaf .space "\n" ⟨1, 1⟩,
      .branch .ruleset
        [.branch .selector [.branch .typeSelector [.leaf .ident "a" ⟨2, 1⟩] ⟨2, 1⟩] ⟨2, 1⟩,
          .branch .block [.leaf .space " " ⟨2, 3⟩, .leaf .comment "b" ⟨2, 4⟩] ⟨2, 2⟩]
        ⟨2, 1⟩,
      .leaf .comment "c" ⟨2, 10⟩]
    .origin

/-- The comment inside the first ruleset is reported, not the one behind the ruleset. -/
theorem ofTree_fails_with_first_failing_child_twoComments :
    (Program.ofTree twoComments).run.value =
        .error (.unsupportedConstruct .comment .block ⟨2, 4⟩) ∧
      ∃ before child behind, twoComments.children = before ++ child :: behind ∧
        (Program.ofTree (.branch .stylesheet [child] .origin)).run.value =
          .error (.unsupportedConstruct .comment .block ⟨2, 4⟩) ∧
        ∃ node, child.Keeps node ∧ node.kind = .comment ∧ node.start = ⟨2, 4⟩ := by
  have failed : (Program.ofTree twoComments).run.value =
      .error (.unsupportedConstruct .comment .block ⟨2, 4⟩) := rfl
  obtain ⟨_, located⟩ := ofTree_fails_with_first_failing_child
    (show twoComments.kind = .stylesheet from rfl) .origin
  obtain ⟨before, child, behind, whole, _, _, alone, node, keeps, kind, start⟩ :=
    located _ failed
  exact ⟨failed, before, child, behind, whole, alone, node, keeps, kind.symm, start.symm⟩

end NestedStyles
