import Mathlib.Data.List.Forall2
import Mathlib.Data.Option.Basic
import NestedStyles.Proofs.Program.Unplaced

/-!
# Regrouped levels

On each level of a tree, which is the stylesheet itself or a block, declarations and
rulesets are collected apart, so it does not matter how they are interleaved. What a level
comes to follows from its declarations alone and its other items alone
(`Collector.toOption_foldlM`). Main statement: trees that differ only in how the items of
their levels are interleaved, at any depth, compile to the same program or both to none.
-/

namespace NestedStyles

namespace Kind

/-- The kinds of nodes whose children are the items of a level. -/
def IsLevel (kind : Kind) : Prop := kind = stylesheet ∨ kind = block

instance (kind : Kind) : Decidable kind.IsLevel :=
  inferInstanceAs (Decidable (_ ∨ _))

end Kind

namespace Node

/-- Trees that differ only in positions and in how the items of their levels are
interleaved. The declarations of a level keep their order, and so do its other items, which
may be regrouped themselves. -/
inductive Regroups : Node → Node → Prop where
  | leaf (kind : Kind) (text : String) (start start' : Position) :
      Regroups (.leaf kind text start) (.leaf kind text start')
  | branch {kind : Kind} {children children' : List Node} (start start' : Position) :
      ¬ kind.IsLevel → List.Forall₂ Regroups children children' →
      Regroups (.branch kind children start) (.branch kind children' start')
  | level {kind : Kind} {items items' : List Node} (start start' : Position) : kind.IsLevel →
      (items.filter (·.kind = .declaration)).map unplaced =
        (items'.filter (·.kind = .declaration)).map unplaced →
      List.Forall₂ Regroups (items.filter (·.kind ≠ .declaration))
        (items'.filter (·.kind ≠ .declaration)) →
      Regroups (.branch kind items start) (.branch kind items' start')

namespace Regroups

variable {first second : Node}

theorem kind_eq (regroups : first.Regroups second) : first.kind = second.kind := by
  cases regroups <;> rfl

/-- Outside of levels, children are regrouped one by one. -/
theorem children (regroups : first.Regroups second) (inner : ¬ first.kind.IsLevel) :
    List.Forall₂ Regroups first.children second.children := by
  cases regroups with
  | leaf => exact .nil
  | branch _ _ _ paired => exact paired
  | level _ _ isLevel => exact absurd isLevel inner

mutual

/-- Every tree is a regrouping of itself. -/
theorem refl : (node : Node) → node.Regroups node
  | .leaf kind text start => .leaf kind text start start
  | .branch kind children start => by
      have each := refl_of_mem children
      by_cases isLevel : kind.IsLevel
      · apply Regroups.level start start isLevel rfl
        exact List.forall₂_same.2 fun item member => each item (List.mem_filter.1 member).1
      · exact .branch start start isLevel (List.forall₂_same.2 each)

theorem refl_of_mem : (nodes : List Node) → ∀ node ∈ nodes, node.Regroups node
  | [] => List.forall_mem_nil _
  | node :: nodes => List.forall_mem_cons.2 ⟨refl node, refl_of_mem nodes⟩

end

end Regroups

end Node

open Node CompileM

section Successes

variable {ε α β : Type}

theorem toOption_bind (first : Except ε α) (next : α → Except ε β) :
    (first >>= next).toOption = first.toOption.bind fun value => (next value).toOption := by
  cases first <;> rfl

theorem toOption_eq_some_iff {result : Except ε α} {value : α} :
    result.toOption = some value ↔ result = .ok value := by
  cases result <;> simp [Except.toOption]

theorem toOption_unplacedOutcome (result : Except CompileError α) :
    (unplacedOutcome result).toOption = result.toOption := by
  cases result <;> rfl

end Successes

namespace Node

/-- What is taken from a node, if anything, does not change by regrouping. -/
def SurvivesRegrouping {α : Type} (take : Node → Except CompileError α) : Prop :=
  ∀ {first second : Node}, first.Regroups second →
    (take first).toOption = (take second).toOption

section Selectors

/-- What survives regrouping can be taken from paired nodes one after another. -/
theorem SurvivesRegrouping.mapM {α : Type} {take : Node → Except CompileError α}
    (survives : SurvivesRegrouping take) {nodes nodes' : List Node}
    (paired : List.Forall₂ Regroups nodes nodes') :
    (nodes.mapM take).toOption = (nodes'.mapM take).toOption := by
  induction paired with
  | nil => rfl
  | cons regroups _ ih => simp only [List.mapM_cons, toOption_bind, survives regroups, ih]

theorem survivesRegrouping_literal : SurvivesRegrouping literal := by
  intro first second regroups
  cases regroups <;> rfl

/-- Regrouping does not change the parts of a name. -/
theorem survivesRegrouping_identPart : SurvivesRegrouping identPart := by
  intro first second regroups
  unfold identPart
  rw [regroups.kind_eq]
  split
  · exact survivesRegrouping_literal regroups
  · rfl

/-- Names are the same if their parts are regroupings of each other. -/
theorem toOption_identText {first second : Node}
    (paired : List.Forall₂ Regroups first.children second.children) :
    first.identText.toOption = second.identText.toOption := by
  unfold identText
  rw [toOption_bind, toOption_bind, survivesRegrouping_identPart.mapM paired]
  congr 1
  funext parts
  dsimp only
  split <;> rfl

/-- Regrouping does not change an alternative of a selector. -/
theorem survivesRegrouping_alternative? : SurvivesRegrouping alternative? := by
  intro first second regroups
  have paired : ¬ first.kind.IsLevel → first.identText.toOption = second.identText.toOption :=
    fun inner => toOption_identText (regroups.children inner)
  unfold alternative?
  rw [← regroups.kind_eq]
  split
  · next kind => rw [toOption_bind, toOption_bind, paired (by rw [kind]; decide)]
  · next kind => rw [toOption_bind, toOption_bind, paired (by rw [kind]; decide)]
  · rfl
  · rfl

/-- Regrouping does not change the selectors of a ruleset, since a selector is no level. -/
theorem Regroups.toOption_selectorGroup {first second : Node} (regroups : first.Regroups second)
    (kind : first.kind = .selector) :
    first.selectorGroup.toOption = second.selectorGroup.toOption := by
  have paired := regroups.children (by rw [kind]; decide)
  unfold selectorGroup
  rw [toOption_bind, toOption_bind, survivesRegrouping_alternative?.mapM paired]
  congr 1
  funext options
  split <;> rfl

end Selectors

/-- The ruleset of an item that is no declaration. -/
def ruleset? (item : Node) : Option Ruleset :=
  if item.kind = .ruleset then (Ruleset.ofNode item).outcome.toOption else none

end Node

namespace Collector

variable {σ : Type} {collector : Collector σ}

/-- Declarations and rulesets do not get into each other's way. -/
def KeepsApart (collector : Collector σ) : Prop :=
  ∀ state entry ruleset,
    collector.declare (collector.nest state ruleset) entry =
      collector.nest (collector.declare state entry) ruleset

theorem keepsApart_block : block.KeepsApart := fun _ _ _ => rfl

theorem keepsApart_stylesheet : stylesheet.KeepsApart := fun _ _ _ => rfl

/-- A ruleset may be nested behind any run of declarations instead of before it. -/
theorem KeepsApart.foldl_declare (apart : collector.KeepsApart)
    (entries : List (String × String)) (state : σ) (ruleset : Ruleset) :
    entries.foldl collector.declare (collector.nest state ruleset) =
      collector.nest (entries.foldl collector.declare state) ruleset := by
  induction entries generalizing state with
  | nil => rfl
  | cons entry entries ih => rw [List.foldl_cons, List.foldl_cons, apart, ih]

/-- A declaration adds what it says, if it says anything. -/
theorem toOption_add_of_declaration (state : σ) {item : Node} (kind : item.kind = .declaration) :
    (outcome (collector.add state item)).toOption =
      (collector.text item).toOption.map (collector.declare state) := by
  rw [add, kind]
  dsimp only
  rw [outcome_bind, outcome_lift, toOption_bind]
  cases collector.text item <;> rfl

/-- Any other item adds its ruleset, if it has one. -/
theorem toOption_add_of_other (state : σ) {item : Node} (kind : item.kind ≠ .declaration) :
    (outcome (collector.add state item)).toOption = item.ruleset?.map (collector.nest state) := by
  unfold add ruleset?
  split
  · contradiction
  · next isRuleset =>
      rw [if_pos isRuleset, outcome_bind, toOption_bind]
      cases (Ruleset.ofNode item).outcome <;> rfl
  · next notRuleset =>
      rw [if_neg notRuleset]
      rfl

/-- A level comes to its declarations, one after another, and then to its other items, one
after another. -/
theorem toOption_foldlM (apart : collector.KeepsApart) (items : List Node) (state : σ) :
    (outcome (items.foldlM collector.add state)).toOption =
      ((items.filter (·.kind = .declaration)).mapM fun item =>
          (collector.text item).toOption).bind fun entries =>
        ((items.filter (·.kind ≠ .declaration)).mapM ruleset?).map fun rulesets =>
          rulesets.foldl collector.nest (entries.foldl collector.declare state) := by
  induction items generalizing state with
  | nil => rfl
  | cons item items ih =>
      rw [List.foldlM_cons, outcome_bind, toOption_bind]
      simp only [ih]
      by_cases isDeclaration : item.kind = .declaration
      · rw [toOption_add_of_declaration state isDeclaration,
          List.filter_cons_of_pos (by simpa using isDeclaration),
          List.filter_cons_of_neg (by simpa using isDeclaration), List.mapM_cons]
        cases (collector.text item).toOption with
        | none => rfl
        | some entry =>
            cases (items.filter (·.kind = .declaration)).mapM fun item =>
              (collector.text item).toOption <;> rfl
      · rw [toOption_add_of_other state isDeclaration,
          List.filter_cons_of_neg (by simpa using isDeclaration),
          List.filter_cons_of_pos (by simpa using isDeclaration), List.mapM_cons]
        cases item.ruleset? with
        | none => exact (Option.bind_fun_none _).symm
        | some ruleset =>
            simp only [Option.map_some, Option.bind_some, apart.foldl_declare]
            cases (items.filter (·.kind ≠ .declaration)).mapM ruleset? <;> rfl

end Collector

section Levels

variable {σ : Type} {collector : Collector σ} {first second : Node}

/-- Declarations that differ only in positions say the same. -/
theorem mapM_eq_of_map_unplaced_eq (text : IgnoresPositions collector.text)
    {items items' : List Node} (same : items.map unplaced = items'.map unplaced) :
    (items.mapM fun item => (collector.text item).toOption) =
      items'.mapM fun item => (collector.text item).toOption := by
  have unplace (items : List Node) : (items.mapM fun item => (collector.text item).toOption) =
      (items.map unplaced).mapM fun item => (collector.text item).toOption := by
    rw [List.mapM_map]
    congr 1
    funext item
    rw [Function.comp_apply, text, toOption_unplacedOutcome]
  rw [unplace, same, ← unplace]

/-- Paired items have the same rulesets if each pair has. -/
theorem mapM_ruleset?_eq {items items' : List Node} (paired : List.Forall₂ Regroups items items')
    (compile : ∀ item ∈ items, ∀ item', item.Regroups item' → item.ruleset? = item'.ruleset?) :
    items.mapM ruleset? = items'.mapM ruleset? := by
  induction paired with
  | nil => rfl
  | cons regroups _ ih =>
      obtain ⟨compiles, compile⟩ := List.forall_mem_cons.1 compile
      rw [List.mapM_cons, List.mapM_cons, compiles _ regroups, ih compile]

/-- Regrouped levels come to the same, if the rulesets in them do. -/
theorem Node.Regroups.toOption_foldlM (regroups : first.Regroups second)
    (isLevel : first.kind.IsLevel) (text : IgnoresPositions collector.text)
    (apart : collector.KeepsApart)
    (compile : ∀ item ∈ first.children, ∀ item', item.Regroups item' →
      item.ruleset? = item'.ruleset?) (state : σ) :
    (outcome (first.children.foldlM collector.add state)).toOption =
      (outcome (second.children.foldlM collector.add state)).toOption := by
  cases regroups with
  | leaf => rfl
  | branch _ _ inner => exact absurd isLevel inner
  | level _ _ _ declared paired =>
      have others := mapM_ruleset?_eq paired fun item member =>
        compile item (List.mem_filter.1 member).1
      rw [collector.toOption_foldlM apart, collector.toOption_foldlM apart, children_branch,
        children_branch, mapM_eq_of_map_unplaced_eq text declared, others]

end Levels

/-- A pair of a selector and a block compiles as its regrouping does, if the items of the
block do. -/
theorem toOption_ofNode_pair {selector selector' block block' : Node}
    (selectors : selector.Regroups selector') (blocks : block.Regroups block')
    (compile : ∀ item ∈ block.children, ∀ item', item.Regroups item' →
      item.ruleset? = item'.ruleset?) (kind : Kind) (start start' : Position) :
    (Ruleset.ofNode (.branch kind [selector, block] start)).outcome.toOption =
      (Ruleset.ofNode (.branch kind [selector', block'] start')).outcome.toOption := by
  rw [outcome_ofNode_pair, outcome_ofNode_pair, ← selectors.kind_eq, ← blocks.kind_eq]
  by_cases isSelector : selector.kind = .selector
  · by_cases isBlock : block.kind = .block
    · have contents := blocks.toOption_foldlM (.inr isBlock) ignoresPositions_declarationText
        Collector.keepsApart_block compile {}
      rw [if_neg (not_not.2 isSelector), if_neg (not_not.2 isBlock), if_neg (not_not.2 isSelector),
        if_neg (not_not.2 isBlock), toOption_bind, toOption_bind,
        selectors.toOption_selectorGroup isSelector]
      simp only [toOption_bind, contents]
    · rw [if_neg (not_not.2 isSelector), if_pos isBlock, if_neg (not_not.2 isSelector),
        if_pos isBlock]
      rfl
  · rw [if_pos isSelector, if_pos isSelector]
    rfl

/-- Regrouped rulesets compile alike, by induction on their size. -/
theorem Node.Regroups.ruleset?_eq {first second : Node} (regroups : first.Regroups second) :
    first.ruleset? = second.ruleset? := by
  induction size : sizeOf first using Nat.strong_induction_on generalizing first second with
  | _ n ih =>
      subst size
      unfold ruleset?
      rw [← regroups.kind_eq]
      by_cases kind : first.kind = .ruleset
      · rw [if_pos kind, if_pos kind]
        cases regroups with
        | leaf => rfl
        | level _ _ isLevel =>
            rw [kind_branch] at kind
            subst kind
            exact absurd isLevel (by decide)
        | branch start start' inner paired =>
            rcases paired with _ | ⟨selectors, _ | ⟨blocks, _ | _⟩⟩
            · rfl
            · rfl
            · apply toOption_ofNode_pair selectors blocks
              intro item member item' regroups
              have below := Node.sizeOf_lt_of_mem_children member
              apply ih _ _ regroups rfl
              simp only [Node.branch.sizeOf_spec, List.cons.sizeOf_spec]
              omega
            · rfl
      · rw [if_neg kind, if_neg kind]

/-- Trees that differ, in their normal forms, only in how the items of their levels are
interleaved compile to the same programs. -/
theorem ofTree_eq_ok_iff_of_regroups {first second : Node}
    (regroups : first.normalize.Regroups second.normalize) (program : Program) :
    (Program.ofTree first).run.value = .ok program ↔
      (Program.ofTree second).run.value = .ok program := by
  have kinds : first.kind = second.kind := by
    rw [← first.kind_normalize, regroups.kind_eq, second.kind_normalize]
  change (Program.ofTree first).outcome = _ ↔ (Program.ofTree second).outcome = _
  rw [← toOption_eq_some_iff, ← toOption_eq_some_iff, Program.outcome_ofTree_eq,
    Program.outcome_ofTree_eq, ← kinds]
  by_cases isStylesheet : first.kind = .stylesheet
  · have isLevel : first.normalize.kind.IsLevel := .inl (first.kind_normalize.trans isStylesheet)
    rw [if_neg (not_not.2 isStylesheet), if_neg (not_not.2 isStylesheet),
      regroups.toOption_foldlM isLevel ignoresPositions_definitionText
        Collector.keepsApart_stylesheet fun _ _ _ regroups => regroups.ruleset?_eq]
  · rw [if_pos isStylesheet, if_pos isStylesheet]
    rfl

section Interleaved

/-- A declaration of a property or a variable, with an identifier as its value. -/
def declarationOf (name : Node) (value : String) : Node :=
  .branch .declaration
    [.branch .property [name] .unknown, .branch .value [.leaf .ident value .unknown] .unknown]
    .unknown

/-- A ruleset for a type. -/
def typeRulesetOf (name : String) (items : List Node) : Node :=
  .branch .ruleset
    [.branch .selector [.branch .typeSelector [.leaf .ident name .unknown] .unknown] .unknown,
      .branch .block items .unknown]
    .unknown

/-- The variable behind the ruleset, and the nested ruleset between two declarations of one
property. -/
def nestedBetween : Node :=
  .branch .stylesheet
    [typeRulesetOf "a"
        [declarationOf (.leaf .ident "b" .unknown) "c",
          typeRulesetOf "d" [declarationOf (.leaf .ident "e" .unknown) "f"],
          declarationOf (.leaf .ident "b" .unknown) "g"],
      declarationOf (.branch .variableName [.leaf .ident "w" .unknown] .unknown) "x"]
    .unknown

/-- The variable in front of the ruleset, and the nested ruleset in front of the two
declarations, with blank space and delimiters. -/
def nestedInFront : Node :=
  .branch .stylesheet
    [declarationOf (.branch .variableName [.leaf .ident "w" .unknown] .unknown) "x",
      .leaf .declarationDelimiter ";" ⟨1, 5⟩, .leaf .space "\n" ⟨1, 6⟩,
      typeRulesetOf "a"
        [typeRulesetOf "d" [declarationOf (.leaf .ident "e" .unknown) "f"],
          declarationOf (.leaf .ident "b" .unknown) "c",
          .leaf .declarationDelimiter ";" .unknown,
          declarationOf (.leaf .ident "b" .unknown) "g"]]
    .origin

/-- What both of them compile to. -/
def nestedApart : Program where
  initializer := .ofList [("$w", "x")]
  rulesets := [⟨["a"], .ofList [("b", "g")], [⟨["d"], .ofList [("e", "f")], []⟩]⟩]

/-- Declarations and rulesets change places at both levels, and the program is the same. -/
theorem ofTree_eq_ok_iff_of_regroups_nested :
    nestedBetween.normalize.Regroups nestedInFront.normalize ∧
      (Program.ofTree nestedBetween).run.value = .ok nestedApart ∧
      (Program.ofTree nestedInFront).run.value = .ok nestedApart := by
  have regroups : nestedBetween.normalize.Regroups nestedInFront.normalize := by
    refine .level _ _ (.inl rfl) ?_ (.cons (.branch _ _ (by decide) ?_) .nil)
    · rfl
    · refine .cons (.refl _) (.cons (.level _ _ (.inr rfl) ?_ (.cons (.refl _) .nil)) .nil)
      rfl
  have compiled : (Program.ofTree nestedBetween).run.value = .ok nestedApart :=
    eq_ok_of_toOption (by decide +kernel)
  exact ⟨regroups, compiled, (ofTree_eq_ok_iff_of_regroups regroups nestedApart).1 compiled⟩

end Interleaved

end NestedStyles
