import Mathlib.Algebra.BigOperators.Group.List.Basic
import Mathlib.Algebra.GroupWithZero.Nat
import NestedStyles.Proofs.Program.Regrouping
import NestedStyles.Proofs.Program.WellFormed
import NestedStyles.Proofs.Render.SelectorProduct
import NestedStyles.Proofs.Render.SingleLookup

/-!
# How many rules a program renders to

A block with declarations is shown once for every choice of selectors on the path to it, so the
sizes of the selector groups on the path multiply. In a well-formed program no group is empty, so
no such block is left out. Main statement: what compiles is well formed, and the rules of its
sheet are those of its declaring blocks, in numbers that the groups give
(`declaring_blocks_are_rendered`).
-/

namespace NestedStyles

section Counting

variable {bindings : Variables} {rulesets : List Ruleset} {block : PlacedBlock}

/-- How many choices of selectors there are on the path to a block. -/
def PlacedBlock.ruleCount (block : PlacedBlock) : Nat := (block.groups.map List.length).prod

/-- A block with declarations has one rule for every choice of selectors. -/
theorem PlacedBlock.length_rules (bindings : Variables)
    (declares : ¬ block.declarations.isEmpty) :
    (block.rules bindings).length = block.ruleCount := by
  rw [rules, if_neg declares, List.length_map, length_choices]
  rfl

/-- The blocks with declarations, at every depth. -/
def Ruleset.declaring (rulesets : List Ruleset) : List PlacedBlock :=
  (placedAll [] rulesets).filter fun block => ¬ block.declarations.isEmpty

theorem Ruleset.mem_declaring_iff :
    block ∈ declaring rulesets ↔
      block ∈ placedAll [] rulesets ∧ ¬ block.declarations.isEmpty := by
  rw [declaring, List.mem_filter, decide_eq_true_eq]

/-- The other blocks show nothing. -/
theorem flatRules_eq_flatMap_declaring (bindings : Variables) (rulesets : List Ruleset) :
    flatRules bindings rulesets =
      (Ruleset.declaring rulesets).flatMap (PlacedBlock.rules bindings) := by
  unfold flatRules Ruleset.declaring
  induction Ruleset.placedAll [] rulesets with
  | nil => rfl
  | cons block blocks ih =>
      rw [List.flatMap_cons, ih]
      by_cases empty : block.declarations.isEmpty
      · rw [List.filter_cons_of_neg (by simpa using empty), PlacedBlock.rules, if_pos empty,
          List.nil_append]
      · rw [List.filter_cons_of_pos (by simpa using empty), List.flatMap_cons]

/-- Rulesets have as many rules as their declaring blocks have choices. -/
theorem length_flatRules (bindings : Variables) (rulesets : List Ruleset) :
    (flatRules bindings rulesets).length =
      ((Ruleset.declaring rulesets).map PlacedBlock.ruleCount).sum := by
  rw [flatRules_eq_flatMap_declaring, List.length_flatMap]
  congr 1
  apply List.map_congr_left
  intro block member
  exact PlacedBlock.length_rules bindings (Ruleset.mem_declaring_iff.1 member).2

end Counting

section WellFormed

/-- The groups around the blocks of a well-formed ruleset have members, by induction on how deep
it is nested. -/
theorem Ruleset.IsWellFormed.placed {ruleset : Ruleset} (wellFormed : ruleset.IsWellFormed)
    {around : List SelectorGroup} (outer : ∀ group ∈ around, group ≠ []) :
    ∀ block ∈ ruleset.placed around, ∀ group ∈ block.groups, group ≠ [] := by
  induction wellFormed generalizing around with
  | @intro selectors declarations nested some _ _ _ _ ih =>
      have groups : ∀ group ∈ around ++ [selectors], group ≠ [] :=
        List.forall_mem_append.2 ⟨outer, List.forall_mem_singleton.2 some⟩
      rw [Ruleset.placed]
      refine List.forall_mem_cons.2 ⟨groups, ?_⟩
      intro block member
      obtain ⟨ruleset, present, inside⟩ := Ruleset.mem_placedAll_iff.1 member
      exact ih ruleset present groups block inside

/-- On the path to a block of a well-formed program no group is empty, so there is a choice. -/
theorem Program.IsWellFormed.ruleCount_pos {program : Program} (wellFormed : program.IsWellFormed)
    {block : PlacedBlock} (placed : block ∈ Ruleset.placedAll [] program.rulesets) :
    0 < block.ruleCount := by
  obtain ⟨ruleset, present, inside⟩ := Ruleset.mem_placedAll_iff.1 placed
  have groups := (wellFormed.rulesets ruleset present).placed (List.forall_mem_nil _) block inside
  rw [PlacedBlock.ruleCount, ← length_choices]
  exact List.length_pos_of_ne_nil (choices_ne_nil groups)

end WellFormed

/-- **No compiled block is lost.** Whatever tree compiles, its program is well formed: every
ruleset at every depth has selectors, none of them empty, and distinct names of properties, none
of them empty, and the variables have distinct names with signs. So if the program starts, the
sheet holds the rules of the blocks with declarations, one block after another, as many for each
as there are choices of selectors on the path to it, and at least one. -/
theorem declaring_blocks_are_rendered {tree : Node} {program : Program}
    (compiled : (Program.ofTree tree).run.value = .ok program) :
    program.IsWellFormed ∧
    ∀ live, (LiveSheet.start program ∅).run.value = .ok live →
      live.sheet.rules.toList =
          (Ruleset.declaring program.rulesets).flatMap (PlacedBlock.rules program.initializer) ∧
        live.sheet.size =
          ((Ruleset.declaring program.rulesets).map PlacedBlock.ruleCount).sum ∧
        ∀ block ∈ Ruleset.declaring program.rulesets,
          (block.rules program.initializer).length = block.ruleCount ∧ 0 < block.ruleCount := by
  have wellFormed : program.IsWellFormed := Program.isWellFormed_of_compiled compiled
  refine ⟨wellFormed, ?_⟩
  intro live started
  have rules := LiveSheet.toList_rules_of_start started
  refine ⟨rules.trans (flatRules_eq_flatMap_declaring ..), ?_, ?_⟩
  · rw [← length_flatRules program.initializer, ← rules, Array.length_toList]
    rfl
  · intro block member
    obtain ⟨placed, declares⟩ := Ruleset.mem_declaring_iff.1 member
    exact ⟨PlacedBlock.length_rules _ declares, wellFormed.ruleCount_pos placed⟩

/-- A selector that opens with a delimiter, an identifier without text, a property declared twice,
and a block without declarations of its own on the path to another. -/
def unevenTree : Node :=
  .branch .stylesheet
    [.branch .ruleset
      [.branch .selector
          [.leaf .delimiter "," .unknown,
            .branch .typeSelector [.leaf .ident "" .unknown, .leaf .ident "a" .unknown] .unknown,
            .branch .classSelector [.leaf .ident "b" .unknown] .unknown]
          .unknown,
        .branch .block
          [declarationOf (.leaf .ident "c" .unknown) "d",
            typeRulesetOf "e"
              [.branch .ruleset
                [.branch .selector
                    [.branch .typeSelector [.leaf .ident "f" .unknown] .unknown,
                      .branch .typeSelector [.leaf .ident "g" .unknown] .unknown]
                    .unknown,
                  .branch .block [declarationOf (.leaf .ident "h" .unknown) "i"] .unknown]
                .unknown],
            declarationOf (.leaf .ident "c" .unknown) "j"]
          .unknown]
      .unknown]
    .unknown

/-- What it compiles to. -/
def unevenPaths : Program where
  rulesets :=
    [⟨["a", ".b"], .ofList [("c", "j")],
      [⟨["e"], ∅, [⟨["f", "g"], .ofList [("h", "i")], []⟩]⟩]⟩]

/-- Two blocks declare something, with two and with four choices of selectors. -/
theorem declaring_blocks_are_rendered_unevenTree :
    (Program.ofTree unevenTree).run.value = .ok unevenPaths ∧ unevenPaths.IsWellFormed ∧
      ∃ live, (LiveSheet.start unevenPaths ∅).run.value = .ok live ∧
        (Ruleset.declaring unevenPaths.rulesets).map PlacedBlock.ruleCount = [2, 4] ∧
        live.sheet.size = 6 := by
  have compiled : (Program.ofTree unevenTree).run.value = .ok unevenPaths :=
    eq_ok_of_toOption (by decide +kernel)
  have cover : unevenPaths.initializer.Cover unevenPaths.rulesets := by
    unfold Variables.Cover
    decide
  have started : (LiveSheet.start unevenPaths ∅).run.value = .ok _ :=
    LiveSheet.start_eq_ok_iff.2 ⟨cover, rfl⟩
  obtain ⟨wellFormed, rendered⟩ := declaring_blocks_are_rendered compiled
  have counts : (Ruleset.declaring unevenPaths.rulesets).map PlacedBlock.ruleCount = [2, 4] := by
    decide +kernel
  refine ⟨compiled, wellFormed, _, started, counts, ?_⟩
  rw [(rendered _ started).2.1, counts]
  rfl

end NestedStyles
