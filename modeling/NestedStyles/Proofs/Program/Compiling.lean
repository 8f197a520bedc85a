import NestedStyles.Program.OfSource
import NestedStyles.Proofs.Program.Readable

/-!
# Compiling readable trees

Compiling a tree of the grammar meets its sites in document order. If one offends,
the first such site is the error, and otherwise the program is the one that the tree
spells out (`Source.IsStylesheet.outcome_ofTree`).
-/

namespace NestedStyles

namespace CompileM

variable {α β : Type}

/-- What an action comes to, apart from the events on the way. -/
def outcome (action : CompileM α) : Except CompileError α := action.run.value

/-- The outcome of two steps is the outcome of the second for the value of the first. -/
theorem outcome_bind (action : CompileM α) (next : α → CompileM β) :
    outcome (action >>= next) = action.outcome >>= fun value => (next value).outcome := by
  unfold outcome
  rw [ExceptT.run_bind, Logged.value_bind]
  cases action.run.value <;> rfl

theorem outcome_pure (value : α) : outcome (pure value) = .ok value := rfl

theorem outcome_lift (result : Except CompileError α) :
    outcome (liftM result : CompileM α) = result := rfl

end CompileM

open CompileM

/-- How the items of one level are compiled into a state. -/
structure Collector (σ : Type) where
  /-- What a declaration says at this level. -/
  text : Node → Except CompileError (String × String)
  /-- The level as errors name it. -/
  place : Place
  declare : σ → String × String → σ
  nest : σ → Ruleset → σ

namespace Collector

variable {σ : Type}

/-- Compiles one more item. -/
def add (collector : Collector σ) (state : σ) (item : Node) : CompileM σ :=
  match item.kind with
  | .declaration => return collector.declare state (← collector.text item)
  | .ruleset => return collector.nest state (← Ruleset.ofNode item)
  | _ => throw (.unsupported item collector.place)

/-- Takes one more item as it is spelled. -/
def spell (collector : Collector σ) (state : σ) (item : Node) : σ :=
  match item.kind with
  | .declaration => collector.declare state item.spelledDeclaration
  | .ruleset => collector.nest state (Ruleset.spelled item)
  | _ => state

/-- What only lays the source out spells nothing. -/
theorem spell_of_not_isSignificant (collector : Collector σ) (state : σ) {item : Node}
    (layout : ¬ item.IsSignificant) : collector.spell state item = state := by
  rw [Node.IsSignificant, not_not] at layout
  rw [spell]
  rcases layout with kind | kind | kind <;> rw [kind]

/-- The level of the items of a block. -/
def block : Collector BlockContents where
  text := Node.declarationText
  place := .block
  declare contents entry :=
    { contents with declarations := contents.declarations.insert entry.1 entry.2 }
  nest contents ruleset := { contents with nested := contents.nested ++ [ruleset] }

/-- The recursion over the items of a block is a fold that adds one item after another. -/
theorem addAll_eq_foldlM (contents : BlockContents) (items : List Node) :
    BlockContents.addAll contents items = items.foldlM block.add contents := by
  induction items generalizing contents with
  | nil => rw [BlockContents.addAll, List.foldlM_nil]
  | cons item items ih =>
      rw [BlockContents.addAll, List.foldlM_cons, add]
      split <;> simp [*] <;> rfl

/-- Items spell the declarations of a block and its nested rulesets, each in their own order. -/
theorem foldl_spell_block (contents : BlockContents) (items : List Node) :
    items.foldl block.spell contents =
      { declarations :=
          ((items.filter (·.kind = .declaration)).map Node.spelledDeclaration).foldl
            (fun table (name, value) => table.insert name value) contents.declarations
        nested :=
          contents.nested ++ (items.filter (·.kind = .ruleset)).map Ruleset.spelled } := by
  induction items generalizing contents with
  | nil => simp
  | cons item items ih =>
      rw [List.foldl_cons, ih, spell]
      split <;> simp_all [block]

/-- The level of the items of a stylesheet. -/
def stylesheet : Collector Program where
  text := Node.definitionText
  place := .topLevel
  declare program entry :=
    { program with initializer := program.initializer.set entry.1 entry.2 }
  nest program ruleset := { program with rulesets := program.rulesets ++ [ruleset] }

theorem add_eq : Program.add = stylesheet.add := rfl

/-- Items spell the settings of a stylesheet and its rulesets, each in their own order. -/
theorem foldl_spell_stylesheet (program : Program) (items : List Node) :
    items.foldl stylesheet.spell program =
      { initializer := program.initializer.setAll
          ((items.filter (·.kind = .declaration)).map Node.spelledDeclaration)
        rulesets :=
          program.rulesets ++ (items.filter (·.kind = .ruleset)).map Ruleset.spelled } := by
  induction items generalizing program with
  | nil => simp [Variables.setAll]
  | cons item items ih =>
      rw [List.foldl_cons, ih, spell]
      split <;> simp_all [stylesheet, Variables.setAll]

/-- The level inside the given kinds takes declarations as they are spelled, and errors
name it as reports do. -/
structure Fits (collector : Collector σ) (around : List Kind) : Prop where
  place : collector.place = if around = [.stylesheet] then .topLevel else .block
  text : ∀ item, Source.IsDeclaration item →
    collector.text item.normalize = vet (item.sites around) item.spelledDeclaration

/-- In a block a declaration is taken as it is spelled, unless its property is a variable. -/
theorem fits_block (around : List Kind) : block.Fits (.block :: around) where
  place := by simp [block]
  text _ shape := shape.declarationText_eq around

/-- In a stylesheet a declaration is taken as it is spelled, unless its property is a plain
identifier. -/
theorem fits_stylesheet : stylesheet.Fits [.stylesheet] where
  place := rfl
  text _ shape := shape.definitionText_eq

end Collector

section Equations

/-- What a block holds is compiled item by item. -/
theorem BlockContents.ofNode_eq_foldlM (node : Node) :
    BlockContents.ofNode node = node.children.foldlM Collector.block.add {} := by
  cases node with
  | leaf kind text start => rw [BlockContents.ofNode, Node.children, List.foldlM_nil]
  | branch kind items start =>
      rw [BlockContents.ofNode, Collector.addAll_eq_foldlM, Node.children]

/-- A ruleset takes its selector and then its block, once both are what they should be. -/
theorem outcome_ofNode_pair (kind : Kind) (selector block : Node) (start : Position) :
    (Ruleset.ofNode (.branch kind [selector, block] start)).outcome =
      if selector.kind ≠ .selector then .error (.unsupported selector .rulesetSelector)
      else if block.kind ≠ .block then .error (.unsupported block .rulesetBlock)
      else selector.selectorGroup >>= fun selectors =>
        outcome (block.children.foldlM Collector.block.add {}) >>= fun contents =>
          .ok ⟨selectors, contents.declarations, contents.nested⟩ := by
  rw [Ruleset.ofNode, BlockContents.ofNode_eq_foldlM]
  by_cases isSelector : selector.kind = .selector
  · by_cases isBlock : block.kind = .block
    · simp only [isSelector, isBlock, ne_eq, not_true, if_false, outcome_bind]
      rfl
    · simp only [isSelector, isBlock, ne_eq, not_true, not_false_iff, if_false, if_true,
        outcome_bind]
      rfl
  · simp only [isSelector, ne_eq, not_false_iff, if_true, outcome_bind]
    rfl

/-- What has not two parts is no ruleset. -/
theorem Ruleset.ofNode_eq_throw {node : Node} (parts : node.children.length ≠ 2) :
    Ruleset.ofNode node = throw (.malformed node .rulesetParts) := by
  rcases node with ⟨kind, text, start⟩ | ⟨kind, _ | ⟨selector, _ | ⟨block, _ | _⟩⟩, start⟩
  · rfl
  · rfl
  · rfl
  · exact absurd rfl parts
  · rfl

/-- Induction along the way rulesets are compiled: a pair of a selector and a block after the
items of the block. -/
theorem Node.rulesetInduction {motive : Node → Prop}
    (other : ∀ node : Node, node.children.length ≠ 2 → motive node)
    (pair : ∀ kind selector block start, (∀ item ∈ block.children, motive item) →
      motive (.branch kind [selector, block] start))
    (node : Node) : motive node := by
  induction size : sizeOf node using Nat.strong_induction_on generalizing node with
  | _ n ih =>
      subst size
      by_cases parts : node.children.length = 2
      · cases node with
        | leaf => cases parts
        | branch kind children start =>
            obtain ⟨selector, block, rfl⟩ := List.length_eq_two.1 parts
            apply pair
            intro item member
            have below := Node.sizeOf_lt_of_mem_children member
            apply ih _ _ item rfl
            simp only [Node.branch.sizeOf_spec, List.cons.sizeOf_spec]
            omega
      · exact other node parts

/-- A stylesheet is compiled child by child in its normal form. -/
theorem Program.outcome_ofTree_eq (tree : Node) :
    (ofTree tree).outcome =
      if tree.kind ≠ .stylesheet then .error (.unsupported tree .root)
      else outcome (tree.normalize.children.foldlM Collector.stylesheet.add ∅) := by
  rw [ofTree]
  by_cases isStylesheet : tree.kind = .stylesheet
  · simp only [isStylesheet, ne_eq, not_true, if_false, outcome_bind, Collector.add_eq]
    cases outcome (tree.normalize.children.foldlM Collector.stylesheet.add ∅) <;> rfl
  · simp only [isStylesheet, ne_eq, not_false_iff, if_true, outcome_bind]
    rfl

end Equations

namespace Source

variable {node : Node}

/-- Items that only lay the source out have no site that offends. -/
theorem IsItem.isInnocent (shape : IsItem node) (layout : ¬ node.IsSignificant) :
    node.IsInnocent := by
  cases shape with
  | space isSpace => exact isSpace.isInnocent (by decide)
  | delimiter isMark => exact isMark.isInnocent (by decide)
  | comment isComment => exact absurd (isComment.isSignificant_iff.2 (by decide)) layout
  | declaration isDeclaration =>
      cases isDeclaration
      simp [Node.IsSignificant, Node.kind, Kind.IsInsignificant] at layout
  | ruleset =>
      simp [Node.IsSignificant, Node.kind, Kind.IsInsignificant] at layout

/-- A comment stops the work, with the report of its site. -/
theorem IsComment.vet_sites {α : Type} (shape : IsComment node) (around : List Kind)
    (value : α) :
    vet (node.sites around) value =
      .error (.unsupported node (if around = [.stylesheet] then .topLevel else .block)) := by
  obtain @⟨text, start, _⟩ := shape
  have offends : Site.Offends ⟨around, .leaf .comment text start⟩ := .inl rfl
  rw [vet, Node.sites, inspect_cons_of_offends offends]
  rfl

section Items

variable {σ : Type} {collector : Collector σ} {around : List Kind}

/-- A ruleset compiles to what it spells out, wherever it stands. -/
def Compiles (node : Node) : Prop :=
  ∀ around, (Ruleset.ofNode node.normalize).outcome =
    vet (node.sites around) (Ruleset.spelled node)

/-- An item is inspected and then taken as it is spelled. -/
theorem IsItem.outcome_add (shape : IsItem node) (significant : node.IsSignificant)
    (compiles : node.kind = .ruleset → Compiles node) (fits : collector.Fits around)
    (state : σ) :
    (collector.add state node.normalize).outcome =
      vet (node.sites around) (collector.spell state node) := by
  cases shape with
  | space isSpace => exact absurd (by decide) (isSpace.isSignificant_iff.1 significant)
  | delimiter isMark => exact absurd (by decide) (isMark.isSignificant_iff.1 significant)
  | comment isComment =>
      rw [isComment.vet_sites, ← fits.place]
      cases isComment
      rfl
  | declaration isDeclaration =>
      obtain ⟨_, _, declares⟩ := isDeclaration.exists_declares
      have kind : node.normalize.kind = .declaration := node.kind_normalize.trans declares.kind
      simp only [Collector.add, Collector.spell, kind, declares.kind, outcome_bind, outcome_lift,
        outcome_pure, fits.text node isDeclaration, vet_bind_ok]
  | ruleset blockStart start =>
      simp only [Collector.add, Node.normalize, Node.kind, outcome_bind, outcome_pure]
      rw [← Node.normalize, compiles rfl]
      exact vet_bind_ok _ _ _

/-- Items are compiled one after another, up to the first that offends. -/
theorem outcome_foldlM {items : List Node} (areItems : ∀ item ∈ items, IsItem item)
    (compile : ∀ item ∈ items, item.kind = .ruleset → Compiles item)
    (fits : collector.Fits around) (state : σ) :
    outcome ((Node.normalizeAll items).foldlM collector.add state) =
      vet (Node.sitesAll around items) (items.foldl collector.spell state) := by
  induction items generalizing state with
  | nil => rfl
  | cons item items ih =>
      obtain ⟨isItem, areItems⟩ := List.forall_mem_cons.1 areItems
      obtain ⟨compiles, compile⟩ := List.forall_mem_cons.1 compile
      rw [Node.normalizeAll, Node.sitesAll, List.foldl_cons]
      by_cases significant : item.IsSignificant
      · rw [if_pos significant, List.foldlM_cons, outcome_bind,
          isItem.outcome_add significant compiles fits]
        simp only [ih areItems compile]
        exact vet_bind_vet _ _ _ (items.foldl collector.spell)
      · rw [if_neg significant, vet_append_of_ok (isItem.isInnocent significant around),
          collector.spell_of_not_isSignificant state significant, ih areItems compile]

end Items

section Rulesets

theorem IsSelector.kind_eq (shape : IsSelector node) : node.kind = .selector := by
  cases shape
  rfl

/-- A ruleset by its parts. -/
abbrev rulesetOf (selector : Node) (between : Option Node) (items : List Node)
    (blockStart start : Position) : Node :=
  .branch .ruleset (selector :: between.toList ++ [.branch .block items blockStart]) start

section Parts

variable {selector : Node} {between : Option Node} {items : List Node}
  {blockStart start : Position}

/-- Normalizing a ruleset leaves its selector and its block, without the space between them. -/
theorem normalize_rulesetOf (isSelector : IsSelector selector)
    (blank : ∀ space ∈ between, IsSpace space) :
    (rulesetOf selector between items blockStart start).normalize =
      .branch .ruleset
        [selector.normalize, .branch .block (Node.normalizeAll items) blockStart] start := by
  have significant : selector.IsSignificant := by
    simp [Node.IsSignificant, isSelector.kind_eq, Kind.IsInsignificant]
  rw [rulesetOf, Node.normalize, List.cons_append, Node.normalizeAll, if_pos significant,
    Node.normalizeAll_append, normalizeAll_spaces blank]
  rfl

/-- Compiling a ruleset takes its selector and then its block. -/
theorem outcome_ofNode (isSelector : IsSelector selector)
    (blank : ∀ space ∈ between, IsSpace space) :
    (Ruleset.ofNode (rulesetOf selector between items blockStart start).normalize).outcome =
      selector.normalize.selectorGroup >>= fun selectors =>
        outcome ((Node.normalizeAll items).foldlM Collector.block.add {}) >>= fun contents =>
          .ok ⟨selectors, contents.declarations, contents.nested⟩ := by
  have selectorKind : selector.normalize.kind = .selector :=
    selector.kind_normalize.trans isSelector.kind_eq
  rw [normalize_rulesetOf isSelector blank, outcome_ofNode_pair, if_neg (not_not.2 selectorKind),
    if_neg (not_not.2 (Node.kind_branch ..)), Node.children]

/-- A ruleset spells the alternatives of its selector and what the items of its block spell. -/
theorem spelled_ruleset (isSelector : IsSelector selector)
    (blank : ∀ space ∈ between, IsSpace space) :
    Ruleset.spelled (rulesetOf selector between items blockStart start) =
      { selectors := (selector.children.filter (·.IsAlternative)).map Node.sourceText
        declarations :=
          .ofList ((items.filter (·.kind = .declaration)).map Node.spelledDeclaration)
        nested := (items.filter (·.kind = .ruleset)).map Ruleset.spelled } := by
  have alternatives : (rulesetOf selector between items blockStart start).alternatives =
      selector.children.filter (·.IsAlternative) := by
    simp [Node.alternatives, Node.childrenOf, filter_spaces blank, isSelector.kind_eq]
  have blockItems : (rulesetOf selector between items blockStart start).blockItems = items := by
    simp [Node.blockItems, Node.childrenOf, filter_spaces blank, isSelector.kind_eq]
  rw [Ruleset.spelled_eq, alternatives, blockItems]

/-- A ruleset offends only inside its selector or among the items of its block. -/
theorem inspect_ruleset (blank : ∀ space ∈ between, IsSpace space) (around : List Kind) :
    inspect ((rulesetOf selector between items blockStart start).sites around) =
      inspect (selector.sites (.ruleset :: around) ++
        Node.sitesAll (.block :: .ruleset :: around) items) := by
  have innocent := Node.inspect_sitesAll_of_isInnocent (isInnocent_spaces blank)
    (.ruleset :: around)
  rw [Node.inspect_branch (by decide), List.cons_append, Node.sitesAll, Node.sitesAll_append,
    inspect_append, inspect_append, innocent, inspect_append, Node.sitesAll, Node.sitesAll,
    List.append_nil, Node.inspect_branch (by decide)]
  rfl

end Parts

/-- The rulesets of the grammar compile, by induction on how deep they are nested. -/
theorem IsItem.compiles (shape : IsItem node) (kind : node.kind = .ruleset) :
    Compiles node := by
  induction shape with
  | space isLeaf | comment isLeaf | delimiter isLeaf =>
      cases isLeaf
      cases kind
  | declaration isDeclaration =>
      cases isDeclaration
      cases kind
  | @ruleset selector between items blockStart start isSelector blank areItems apart ih =>
      intro around
      -- The selector comes before the block in the source and in the work, so the first
      -- offence of the selector hides all those of the block.
      have taken := outcome_foldlM areItems ih (Collector.fits_block (.ruleset :: around)) {}
      rw [outcome_ofNode isSelector blank, spelled_ruleset isSelector blank,
        isSelector.selectorGroup_eq (.ruleset :: around), taken,
        vet_congr (inspect_ruleset blank around)]
      simp only [vet_bind_ok, Collector.foldl_spell_block, List.nil_append]
      exact vet_bind_vet _ _ _ fun selectors => Ruleset.mk selectors _ _

end Rulesets

/-- A stylesheet of items compiles to the program that it spells out, unless a site offends. -/
theorem outcome_ofTree {items : List Node} (areItems : ∀ item ∈ items, IsItem item)
    (start : Position) :
    let tree := Node.branch .stylesheet items start
    (Program.ofTree tree).outcome = vet (tree.sites []) (Program.spelled tree) := by
  have spelled : Program.spelled (.branch .stylesheet items start) =
      items.foldl Collector.stylesheet.spell ∅ := by
    rw [Collector.foldl_spell_stylesheet]
    rfl
  have compile : ∀ item ∈ items, item.kind = .ruleset → Compiles item :=
    fun item member => (areItems item member).compiles
  have taken := outcome_foldlM areItems compile Collector.fits_stylesheet ∅
  dsimp only
  rw [spelled, vet_congr (Node.inspect_branch (by decide) items start []), ← taken,
    Program.outcome_ofTree_eq, if_neg (not_not.2 (Node.kind_branch ..)), Node.normalize,
    Node.children]

/-- A readable stylesheet compiles to what it spells out, unless one of its sites offends. -/
theorem IsStylesheet.outcome_ofTree (shape : IsStylesheet node) :
    (Program.ofTree node).outcome = vet (node.sites []) (Program.spelled node) := by
  obtain ⟨start, areItems⟩ := shape
  exact Source.outcome_ofTree areItems.each start

end Source

end NestedStyles
