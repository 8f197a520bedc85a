import NestedStyles.Proofs.Render.SingleLookup

/-!
# The texts of rules

What a source compiles to and renders to keeps the lexical form of the source: every rule is
made of selectors, properties and values that the readers accept, in one fixed frame
(`Source.IsRuleText`). The braces stand in the frame alone and line breaks stand nowhere, so a
rule holds one pair of braces, and the lines of a sheet's text are its rules
(`rules_are_well_formed`).
-/

namespace NestedStyles

namespace Source

/-- The texts of rules: one or more selectors with single blanks between them, and in braces
one or more declarations with delimiters between them. -/
inductive IsRuleText : String → Prop where
  | intro {selectors : List String} {declarations : List (String × String)} :
      selectors ≠ [] → (∀ selector ∈ selectors, IsSelectorText selector) →
      declarations ≠ [] →
      (∀ entry ∈ declarations, Cut.ident.TakesWhole entry.1 ∧ IsValueText entry.2) →
      IsRuleText (" ".intercalate selectors ++ " \x7b " ++
        ";".intercalate (declarations.map fun entry => entry.1 ++ ": " ++ entry.2) ++ " \x7d")

/-- The characters of selectors and declarations, with what stands between them. -/
def isInner (c : Char) : Bool := isIdentPart c || ". $:;".toList.contains c

/-- A text of such characters. -/
def IsInner (text : String) : Prop := ∀ c ∈ text.toList, isInner c

section Characters

variable {c : Char} {text : String}

theorem IsPlain.isInner (plain : IsPlain text) : IsInner text := by
  intro c member
  rcases plain c member with part | rfl
  · rw [Source.isInner, part, Bool.true_or]
  · rfl

theorem isInner_of_marks (marks : text.toList.all (". $:;".toList.contains ·)) :
    IsInner text := by
  intro c member
  rw [isInner, List.all_eq_true.1 marks c member, Bool.or_true]

theorem IsInner.append {first second : String} (left : IsInner first) (right : IsInner second) :
    IsInner (first ++ second) := by
  unfold IsInner
  rw [String.toList_append]
  exact List.forall_mem_append.2 ⟨left, right⟩

theorem IsInner.intercalate {separator : String} {parts : List String}
    (between : IsInner separator) (each : ∀ part ∈ parts, IsInner part) :
    IsInner (separator.intercalate parts) := by
  induction parts with
  | nil => exact List.forall_mem_nil _
  | cons part parts ih =>
      obtain ⟨first, later⟩ := List.forall_mem_cons.1 each
      cases parts with
      | nil => rwa [String.intercalate_singleton]
      | cons next parts =>
          rw [String.intercalate_cons_cons]
          exact (first.append between).append (ih later)

/-- Values hold no brace and no line break. -/
theorem isInner_of_isValueText (isValue : IsValueText text) : IsInner text := by
  rcases isValue with ⟨name, named, rfl⟩ | number | dimension | ⟨ident, _⟩
  · have plain : IsPlain name :=
      named.elim isPlain_of_takesWhole_ident isPlain_of_isDimensionText
    exact (isInner_of_marks (by decide)).append plain.isInner
  · exact (isPlain_of_takesWhole_number number).isInner
  · exact (isPlain_of_isDimensionText dimension).isInner
  · exact (isPlain_of_takesWhole_ident ident).isInner

theorem IsInner.count_eq_zero (inner : IsInner text) (foreign : isInner c = false) :
    text.toList.count c = 0 := by
  apply List.count_eq_zero_of_not_mem
  intro member
  rw [inner c member] at foreign
  contradiction

/-- The selectors and the declarations of a rule hold inner characters only. -/
theorem IsRuleText.exists_frame (isRule : IsRuleText text) :
    ∃ selectors declarations, IsInner selectors ∧ IsInner declarations ∧
      text = selectors ++ " \x7b " ++ declarations ++ " \x7d" := by
  obtain ⟨_, areSelectors, _, areDeclarations⟩ := isRule
  refine ⟨_, _, IsInner.intercalate (isInner_of_marks (by decide)) ?_,
    IsInner.intercalate (isInner_of_marks (by decide)) ?_, rfl⟩
  · intro selector among
    exact (isPlain_of_isSelectorText (areSelectors selector among)).isInner
  · intro declaration among
    obtain ⟨entry, declared, rfl⟩ := List.mem_map.1 among
    obtain ⟨property, value⟩ := areDeclarations entry declared
    have colon : IsInner ": " := isInner_of_marks (by decide)
    exact ((isPlain_of_takesWhole_ident property).isInner.append colon).append
      (isInner_of_isValueText value)

/-- Any other character stands in a rule as often as it is one of the two braces. -/
theorem IsRuleText.count_eq (isRule : IsRuleText text) (foreign : isInner c = false) :
    text.toList.count c = ['{', '}'].count c := by
  obtain ⟨selectors, declarations, inSelectors, inDeclarations, rfl⟩ := isRule.exists_frame
  have blank : ' ' ≠ c := by
    rintro rfl
    exact absurd foreign (by decide)
  simp [List.count_cons, inSelectors.count_eq_zero foreign,
    inDeclarations.count_eq_zero foreign, blank]

/-- Apart from its braces, a rule holds inner characters only. -/
theorem IsRuleText.notMem (isRule : IsRuleText text) (foreign : isInner c = false)
    (noBrace : c ∉ ['{', '}']) : c ∉ text.toList := by
  rw [← List.count_eq_zero, isRule.count_eq foreign]
  exact List.count_eq_zero_of_not_mem noBrace

end Characters

end Source

open Source

/-- The lines of a sheet's text are its rules, if no rule is broken over lines. -/
theorem Sheet.splitOn_css {sheet : Sheet} (some : sheet.rules.toList ≠ [])
    (whole : ∀ rule ∈ sheet.rules.toList, '\n' ∉ rule.toList) :
    (sheet.css.toList.splitOn '\n').map String.ofList = sheet.rules.toList := by
  have lines : ∀ line ∈ sheet.rules.toList.map String.toList, '\n' ∉ line :=
    List.forall_mem_map.2 whole
  have split := List.splitOn_intercalate '\n' lines (mt List.map_eq_nil_iff.1 some)
  have text : sheet.css.toList = ['\n'].intercalate (sheet.rules.toList.map String.toList) :=
    String.toList_intercalate
  rw [text, split, List.map_map]
  exact List.map_id'' (fun _ => String.ofList_toList) _

section Placed

mutual

/-- A block has at least the group of its own ruleset. -/
theorem Ruleset.groups_ne_nil_of_mem_placed (around : List SelectorGroup) :
    (ruleset : Ruleset) → ∀ block ∈ ruleset.placed around, block.groups ≠ []
  | ⟨selectors, declarations, nested⟩ => by
      rw [placed]
      refine List.forall_mem_cons.2 ⟨?_, groups_ne_nil_of_mem_placedAll _ nested⟩
      exact List.append_ne_nil_of_right_ne_nil around (List.cons_ne_nil _ _)

theorem Ruleset.groups_ne_nil_of_mem_placedAll (around : List SelectorGroup) :
    (rulesets : List Ruleset) → ∀ block ∈ placedAll around rulesets, block.groups ≠ []
  | [] => List.forall_mem_nil _
  | ruleset :: rest => by
      rw [placedAll]
      exact List.forall_mem_append.2 ⟨groups_ne_nil_of_mem_placed around ruleset,
        groups_ne_nil_of_mem_placedAll around rest⟩

end

end Placed

section Blocks

variable {program : Program} {block : PlacedBlock}

/-- The declarations of a block with what their values stand for. -/
def PlacedBlock.resolved (bindings : Variables) (block : PlacedBlock) : List (String × String) :=
  block.declarations.entries.map fun entry => (entry.1, bindings.meaning entry.2)

/-- The rules of a block show the same declarations under every choice of selectors. -/
theorem PlacedBlock.rules_eq_map_ruleText (bindings : Variables) (block : PlacedBlock) :
    block.rules bindings =
      if block.declarations.isEmpty then []
      else (choices block.groups).map fun choice =>
        ruleText (" ".intercalate choice) (bodyText (block.resolved bindings)) := by
  unfold rules bodyText resolved
  rw [List.map_map]
  rfl

theorem PlacedBlock.resolved_ne_nil (bindings : Variables)
    (declares : ¬ block.declarations.isEmpty) : block.resolved bindings ≠ [] := by
  intro empty
  exact declares (List.isEmpty_iff.2 (List.map_eq_nil_iff.1 empty))

/-- What a value stands for is a value again: itself, or what a variable is set to. -/
theorem Program.IsExpressible.isValueText_meaning (expressible : program.IsExpressible)
    {value : String} (isValue : IsValueText value) :
    IsValueText (program.initializer.meaning value) := by
  unfold Variables.meaning
  split
  · cases lookup : program.initializer.get? value with
    | none => exact isValue
    | some found => exact (expressible.definitions _ (Table.get?_eq_some_iff.1 lookup)).2
  · exact isValue

/-- Declarations that a source can be written for still are once their values are looked up. -/
theorem Program.IsExpressible.resolved (expressible : program.IsExpressible)
    (placed : block ∈ Ruleset.placedAll [] program.rulesets) :
    ∀ entry ∈ block.resolved program.initializer,
      Cut.ident.TakesWhole entry.1 ∧ IsValueText entry.2 := by
  intro entry member
  obtain ⟨declaration, declared, rfl⟩ := List.mem_map.1 member
  obtain ⟨property, value⟩ := (expressible.placed block placed).declarations declaration declared
  exact ⟨property, expressible.isValueText_meaning value⟩

/-- A choice from expressible groups is a path of selectors. -/
theorem PlacedBlock.IsExpressible.forall_mem_choice (expressible : block.IsExpressible)
    {choice : List String} (chosen : choice ∈ choices block.groups) :
    ∀ selector ∈ choice, IsSelectorText selector := by
  intro selector member
  obtain ⟨group, among, present⟩ := exists_group_of_mem_choice chosen selector member
  exact (expressible.groups group among).2 selector present

/-- The rules of an expressible program are well formed. -/
theorem Program.IsExpressible.isRuleText (expressible : program.IsExpressible) :
    ∀ rule ∈ flatRules program.initializer program.rulesets, IsRuleText rule := by
  intro rule member
  obtain ⟨block, placed, shown⟩ := List.mem_flatMap.1 member
  obtain ⟨group, inner, groups⟩ := List.exists_cons_of_ne_nil
    (Ruleset.groups_ne_nil_of_mem_placedAll [] program.rulesets block placed)
  rw [PlacedBlock.rules_eq_map_ruleText] at shown
  split at shown
  · cases shown
  · next declares =>
      obtain ⟨choice, chosen, rfl⟩ := List.mem_map.1 shown
      have path : choice ≠ [] := ne_nil_of_mem_choices (groups ▸ chosen)
      exact .intro path ((expressible.placed block placed).forall_mem_choice chosen)
        (PlacedBlock.resolved_ne_nil _ declares) (expressible.resolved placed)

end Blocks

/-- **Rendered sheets are well formed.** If a source compiles and its program starts, each rule
is a path of selectors with declarations in braces, all of them texts that the readers accept.
A rule holds one opening and one closing brace and no line break, and unless there are no rules,
the lines of the sheet's text are the rules. -/
theorem rules_are_well_formed {source : String} {program : Program} {live : LiveSheet}
    (compiled : (Program.ofSource source).run.value = .ok program)
    (started : (LiveSheet.start program ∅).run.value = .ok live) :
    (∀ rule ∈ live.sheet.rules.toList,
      IsRuleText rule ∧ rule.toList.count '{' = 1 ∧ rule.toList.count '}' = 1 ∧
        '\n' ∉ rule.toList ∧ '\r' ∉ rule.toList) ∧
    (live.sheet.rules.toList ≠ [] →
      (live.sheet.css.toList.splitOn '\n').map String.ofList = live.sheet.rules.toList) := by
  have rules : ∀ rule ∈ live.sheet.rules.toList, IsRuleText rule := by
    rw [LiveSheet.toList_rules_of_start started]
    exact (isExpressible_of_compiled compiled).isRuleText
  constructor
  · intro rule member
    have isRule := rules rule member
    exact ⟨isRule, isRule.count_eq (by decide), isRule.count_eq (by decide),
      isRule.notMem (by decide) (by decide), isRule.notMem (by decide) (by decide)⟩
  · intro some
    exact Sheet.splitOn_css some fun rule member =>
      (rules rule member).notMem (by decide) (by decide)

/-- Two alternatives, a negative length in a variable, and a ruleset inside. -/
def accentedPath : Program where
  initializer := .ofList [("$w", "-5px")]
  rulesets :=
    [⟨[".a", "é"], .ofList [("b", "$w"), ("c", "1.5")], [⟨["d"], .ofList [("e", "f")], []⟩]⟩]

/-- The rules of two levels, one alternative of which is not ASCII. -/
theorem rules_are_well_formed_accentedPath :
    (Program.ofSource "$w:-5px;.a,é\x7bb:$w;c:1.5;d\x7be:f\x7d\x7d").run.value =
        .ok accentedPath ∧
      ∃ live, (LiveSheet.start accentedPath ∅).run.value = .ok live ∧
        live.sheet.rules.toList =
          [".a \x7b b: -5px;c: 1.5 \x7d", "é \x7b b: -5px;c: 1.5 \x7d",
            ".a d \x7b e: f \x7d", "é d \x7b e: f \x7d"] ∧
        (∀ rule ∈ live.sheet.rules.toList, IsRuleText rule) ∧
        (live.sheet.css.toList.splitOn '\n').map String.ofList = live.sheet.rules.toList := by
  have compiled : (Program.ofSource
      "$w:-5px;.a,é\x7bb:$w;c:1.5;d\x7be:f\x7d\x7d").run.value = .ok accentedPath :=
    eq_ok_of_toOption (by decide +kernel)
  have cover : accentedPath.initializer.Cover accentedPath.rulesets := by
    unfold Variables.Cover
    decide
  have started : (LiveSheet.start accentedPath ∅).run.value = .ok _ :=
    LiveSheet.start_eq_ok_iff.2 ⟨cover, rfl⟩
  obtain ⟨rules, lines⟩ := rules_are_well_formed compiled started
  refine ⟨compiled, _, started, ?_, fun rule member => (rules rule member).1, lines ?_⟩
  · decide +kernel
  · decide +kernel

end NestedStyles
