import NestedStyles.Proofs.Program.Expressible
import NestedStyles.Proofs.Render.FirstUnset
import NestedStyles.Proofs.Render.UsedBindings

/-!
# Variables are looked up once

A declared reference is replaced by the value of its variable, and this value is not looked
up again. In what a source compiles to, the sign of variables stands nowhere but in front of
references (`Source.IsValueText.sigil_mem_iff`). So the sign is left in some rule exactly if
a declaration refers to a variable whose value is a reference itself.
-/

namespace NestedStyles

namespace Source

/-- A text of letters, digits, the two marks of identifiers and points. -/
def IsPlain (text : String) : Prop := ∀ c ∈ text.toList, isIdentPart c ∨ c = '.'

section Texts

variable {text : String}

theorem IsPlain.append {first second : String} (left : IsPlain first) (right : IsPlain second) :
    IsPlain (first ++ second) := by
  unfold IsPlain
  rw [String.toList_append]
  exact List.forall_mem_append.2 ⟨left, right⟩

theorem IsPlain.sigil_notMem (plain : IsPlain text) : sigil ∉ text.toList := by
  intro member
  rcases plain sigil member with part | point
  · exact absurd part (by decide)
  · exact absurd point (by decide)

theorem isPlain_of_takesWhole_ident (ident : Cut.ident.TakesWhole text) : IsPlain text := by
  have word := takesWhole_ident_iff.1 ident
  intro c member
  left
  cases chars : text.toList with
  | nil =>
      rw [chars] at member
      cases member
  | cons first rest =>
      rw [chars] at word member
      rcases List.mem_cons.1 member with rfl | later
      · exact isIdentPart_of_isIdentStart word.1
      · exact word.2 c later

theorem isPlain_of_takesWhole_number (number : Cut.number.TakesWhole text) : IsPlain text := by
  obtain ⟨sign, whole, fraction, split, signed, run, point⟩ := takesWhole_number_iff.1 number
  have digits {run : List Char} (isRun : IsDigits run) : ∀ c ∈ run, isIdentPart c ∨ c = '.' :=
    fun c member => .inl (isIdentPart_of_isDigit (isRun.forall c member))
  unfold IsPlain
  rw [split, List.forall_mem_append, List.forall_mem_append]
  refine ⟨⟨?_, digits run⟩, ?_⟩
  · rcases signed with rfl | rfl
    · exact List.forall_mem_nil _
    · exact List.forall_mem_singleton.2 (.inl rfl)
  · rcases point with rfl | ⟨behind, run, rfl⟩
    · exact List.forall_mem_nil _
    · exact List.forall_mem_cons.2 ⟨.inr rfl, digits run⟩

theorem isPlain_of_isDimensionText (dimension : IsDimensionText text) : IsPlain text := by
  obtain ⟨number, unit, isNumber, isUnit, rfl⟩ := dimension
  exact (isPlain_of_takesWhole_number isNumber).append (isPlain_of_takesWhole_ident isUnit)

theorem isPlain_of_isSelectorText (selector : IsSelectorText text) : IsPlain text := by
  rcases selector with ident | ⟨name, ident, rfl⟩
  · exact isPlain_of_takesWhole_ident ident
  · refine IsPlain.append ?_ (isPlain_of_takesWhole_ident ident)
    exact List.forall_mem_singleton.2 (.inr rfl)

theorem isReference_of_isVariableText (isVariable : IsVariableText text) : IsReference text := by
  obtain ⟨name, _, rfl⟩ := isVariable
  simp [IsReference]

/-- In a value, the sign of variables marks a reference. -/
theorem IsValueText.sigil_mem_iff (isValue : IsValueText text) :
    sigil ∈ text.toList ↔ IsReference text := by
  have plain (isPlain : IsPlain text) : sigil ∈ text.toList ↔ IsReference text :=
    ⟨fun member => absurd member isPlain.sigil_notMem,
      fun reference => absurd (List.mem_of_head? reference) isPlain.sigil_notMem⟩
  rcases isValue with isVariable | number | dimension | ⟨ident, _⟩
  · have reference := isReference_of_isVariableText isVariable
    exact ⟨fun _ => reference, fun _ => List.mem_of_head? reference⟩
  · exact plain (isPlain_of_takesWhole_number number)
  · exact plain (isPlain_of_isDimensionText dimension)
  · exact plain (isPlain_of_takesWhole_ident ident)

end Texts

end Source

open Source

section Joined

variable {c : Char} {separator : String}

/-- A character that does not separate stands in joined texts if it stands in one of them. -/
theorem mem_intercalate_iff (inside : c ∉ separator.toList) (parts : List String) :
    c ∈ (separator.intercalate parts).toList ↔ ∃ part ∈ parts, c ∈ part.toList := by
  induction parts with
  | nil => simp
  | cons part parts ih =>
      cases parts with
      | nil => simp
      | cons next parts =>
          rw [String.intercalate_cons_cons, String.toList_append, String.toList_append,
            List.mem_append, List.mem_append, ih]
          simp only [inside, or_false, List.exists_mem_cons_iff]

end Joined

section Choices

variable {groups : List SelectorGroup}

theorem exists_group_of_mem_choice {choice : List String} (chosen : choice ∈ choices groups) :
    ∀ selector ∈ choice, ∃ group ∈ groups, selector ∈ group := by
  induction groups generalizing choice with
  | nil =>
      obtain rfl := List.mem_singleton.1 chosen
      exact List.forall_mem_nil _
  | cons group inner ih =>
      rw [choices] at chosen
      obtain ⟨first, present, later⟩ := List.mem_flatMap.1 chosen
      obtain ⟨rest, behind, rfl⟩ := List.mem_map.1 later
      refine List.forall_mem_cons.2 ⟨⟨group, List.mem_cons_self, present⟩, ?_⟩
      intro selector member
      obtain ⟨other, among, holds⟩ := ih behind selector member
      exact ⟨other, List.mem_cons_of_mem group among, holds⟩

theorem choices_ne_nil (each : ∀ group ∈ groups, group ≠ []) : choices groups ≠ [] := by
  induction groups with
  | nil => exact List.cons_ne_nil _ _
  | cons group inner ih =>
      obtain ⟨some, others⟩ := List.forall_mem_cons.1 each
      obtain ⟨first, rest, rfl⟩ := List.exists_cons_of_ne_nil some
      rw [choices, List.flatMap_cons]
      apply List.append_ne_nil_of_left_ne_nil
      exact mt List.map_eq_nil_iff.1 (ih others)

end Choices

/-- A group of one or more selectors that a source can be written for. -/
def SelectorGroup.IsExpressible (group : SelectorGroup) : Prop :=
  group ≠ [] ∧ ∀ selector ∈ group, IsSelectorText selector

/-- A placed block that a source can be written for. -/
structure PlacedBlock.IsExpressible (block : PlacedBlock) : Prop where
  groups : ∀ group ∈ block.groups, SelectorGroup.IsExpressible group
  declarations : ∀ entry ∈ block.declarations.entries,
    Cut.ident.TakesWhole entry.1 ∧ IsValueText entry.2

section Blocks

/-- The blocks of an expressible ruleset are expressible, by induction on how deep it is
nested. -/
theorem Ruleset.IsExpressible.placed {ruleset : Ruleset} (expressible : ruleset.IsExpressible)
    {around : List SelectorGroup} (outer : ∀ group ∈ around, SelectorGroup.IsExpressible group) :
    ∀ block ∈ ruleset.placed around, block.IsExpressible := by
  induction expressible generalizing around with
  | @intro selectors declarations nested some texts entries _ ih =>
      have groups : ∀ group ∈ around ++ [selectors], SelectorGroup.IsExpressible group :=
        List.forall_mem_append.2 ⟨outer, List.forall_mem_singleton.2 ⟨some, texts⟩⟩
      rw [Ruleset.placed]
      refine List.forall_mem_cons.2 ⟨⟨groups, entries⟩, ?_⟩
      intro block member
      obtain ⟨ruleset, present, inside⟩ := Ruleset.mem_placedAll_iff.1 member
      exact ih ruleset present groups block inside

/-- All blocks of an expressible program are expressible, with the groups around them. -/
theorem Program.IsExpressible.placed {program : Program} (expressible : program.IsExpressible) :
    ∀ block ∈ Ruleset.placedAll [] program.rulesets, block.IsExpressible := by
  intro block member
  obtain ⟨ruleset, present, inside⟩ := Ruleset.mem_placedAll_iff.1 member
  exact (expressible.rulesets ruleset present).placed (List.forall_mem_nil _) block inside

end Blocks

namespace PlacedBlock

variable {bindings : Variables} {block : PlacedBlock}

/-- The selectors of a rule hold no sign of variables. -/
theorem IsExpressible.sigil_notMem_choice (expressible : block.IsExpressible)
    {choice : List String} (chosen : choice ∈ choices block.groups) :
    sigil ∉ (" ".intercalate choice).toList := by
  rw [mem_intercalate_iff (by decide)]
  rintro ⟨selector, member, signed⟩
  obtain ⟨group, among, present⟩ := exists_group_of_mem_choice chosen selector member
  have isSelector := (expressible.groups group among).2 selector present
  exact (isPlain_of_isSelectorText isSelector).sigil_notMem signed

/-- The declarations of a block as its rules show them. -/
def body (bindings : Variables) (block : PlacedBlock) : String :=
  ";".intercalate
    (block.declarations.entries.map fun entry => entry.1 ++ ": " ++ bindings.meaning entry.2)

/-- A body holds the sign of variables exactly if one of its values still does after the
look-up. -/
theorem IsExpressible.sigil_mem_body_iff (expressible : block.IsExpressible) :
    sigil ∈ (block.body bindings).toList ↔
      ∃ entry ∈ block.declarations.entries, sigil ∈ (bindings.meaning entry.2).toList := by
  rw [body, mem_intercalate_iff (by decide)]
  simp only [List.mem_map, exists_exists_and_eq_and]
  refine exists_congr fun entry => and_congr_right fun member => ?_
  have property := isPlain_of_takesWhole_ident (expressible.declarations entry member).1
  have colon : sigil ∉ (": " : String).toList := by decide
  simp only [String.toList_append, List.mem_append, property.sigil_notMem, colon, false_or]

/-- The sign of variables is left in the rules of a block exactly if it is left in what some
value of the block stands for. -/
theorem IsExpressible.exists_sigil_mem_rules_iff (expressible : block.IsExpressible) :
    (∃ rule ∈ block.rules bindings, sigil ∈ rule.toList) ↔
      ∃ entry ∈ block.declarations.entries, sigil ∈ (bindings.meaning entry.2).toList := by
  by_cases empty : block.declarations.isEmpty
  · have noEntries : block.declarations.entries = [] := List.isEmpty_iff.1 empty
    rw [rules, if_pos empty, noEntries]
    simp
  · have text {choice : List String} (chosen : choice ∈ choices block.groups) :
        sigil ∈ (" ".intercalate choice ++ " \x7b " ++ block.body bindings ++ " \x7d").toList ↔
          sigil ∈ (block.body bindings).toList := by
      have opening : sigil ∉ " \x7b ".toList := by decide
      have closing : sigil ∉ " \x7d".toList := by decide
      simp only [String.toList_append, List.mem_append, expressible.sigil_notMem_choice chosen,
        opening, closing, false_or, or_false]
    have chooses := choices_ne_nil fun group among => (expressible.groups group among).1
    obtain ⟨choice, chosen⟩ := List.exists_mem_of_ne_nil _ chooses
    rw [← expressible.sigil_mem_body_iff, rules, if_neg empty]
    simp only [List.mem_map, exists_exists_and_eq_and]
    constructor
    · rintro ⟨_, among, signed⟩
      exact (text among).1 signed
    · intro signed
      exact ⟨choice, chosen, (text chosen).2 signed⟩

end PlacedBlock

section Programs

variable {program : Program}

/-- What a bound value stands for keeps the sign of variables exactly if the value refers to a
variable that is set to a reference. -/
theorem Program.IsExpressible.sigil_mem_meaning_iff (expressible : program.IsExpressible)
    {value : String} (isValue : IsValueText value) (bound : ¬ program.initializer.Lacks value) :
    sigil ∈ (program.initializer.meaning value).toList ↔
      IsReference value ∧ ∃ found, program.initializer.get? value = some found ∧
        IsReference found := by
  unfold Variables.meaning
  by_cases reference : IsReference value
  · rw [if_pos reference]
    cases lookup : program.initializer.get? value with
    | none => exact absurd ⟨reference, Table.get?_eq_none_iff.1 lookup⟩ bound
    | some found =>
        have isFound := (expressible.definitions _ (Table.get?_eq_some_iff.1 lookup)).2
        simp [isFound.sigil_mem_iff, reference]
  · rw [if_neg reference, isValue.sigil_mem_iff]
    simp [reference]

/-- A rule holds the sign of variables exactly if a declaration refers to a variable that is set
to a reference. Selectors and property names hold none, literal values hold none, and a value
that is looked up is not looked up again. -/
theorem Program.IsExpressible.sigil_mem_flatRules_iff (expressible : program.IsExpressible)
    (cover : program.initializer.Cover program.rulesets) :
    (∃ rule ∈ flatRules program.initializer program.rulesets, sigil ∈ rule.toList) ↔
      ∃ name value, Ruleset.RefersTo program.rulesets name ∧
        program.initializer.get? name = some value ∧ IsReference value := by
  have meaning {block : PlacedBlock} (placed : block ∈ Ruleset.placedAll [] program.rulesets)
      {entry : String × String} (declared : entry ∈ block.declarations.entries) :=
    expressible.sigil_mem_meaning_iff
      ((expressible.placed block placed).declarations entry declared).2
      (Variables.missing?_eq_none_iff_forall.1 (cover block placed) entry declared)
  constructor
  · rintro ⟨rule, member, signed⟩
    obtain ⟨block, placed, shown⟩ := List.mem_flatMap.1 member
    obtain ⟨entry, declared, signed⟩ :=
      (expressible.placed block placed).exists_sigil_mem_rules_iff.1 ⟨rule, shown, signed⟩
    obtain ⟨reference, found, lookup, again⟩ := (meaning placed declared).1 signed
    exact ⟨entry.2, found, ⟨reference, block, placed, entry, declared, rfl⟩, lookup, again⟩
  · rintro ⟨_, found, ⟨reference, block, placed, entry, declared, rfl⟩, lookup, again⟩
    have signed := (meaning placed declared).2 ⟨reference, found, lookup, again⟩
    obtain ⟨rule, shown, signed⟩ :=
      (expressible.placed block placed).exists_sigil_mem_rules_iff.2 ⟨entry, declared, signed⟩
    exact ⟨rule, List.mem_flatMap.2 ⟨block, placed, shown⟩, signed⟩

/-- Variables that cover rulesets have a value for every name to which these refer. -/
theorem Variables.Cover.exists_get?_eq_some {bindings : Variables} {rulesets : List Ruleset}
    (cover : bindings.Cover rulesets) {name : String}
    (referred : Ruleset.RefersTo rulesets name) : ∃ value, bindings.get? name = some value := by
  obtain ⟨reference, block, placed, entry, declared, rfl⟩ := referred
  have bound := missing?_eq_none_iff.1 (cover block placed) entry declared reference
  exact Option.ne_none_iff_exists'.1 (mt Table.get?_eq_none_iff.1 (not_not_intro bound))

/-- A program that does not start refers to a variable that is not set, and the error names
it. -/
theorem LiveSheet.exists_unset_of_start_eq_error {sheet : Sheet} {abandoned : Abandoned}
    (failed : (start program sheet).run.value = .error abandoned) :
    ∃ name, Ruleset.RefersTo program.rulesets name ∧
      program.initializer.get? name = none ∧ abandoned.error = .unknownVariable name := by
  rw [start_value] at failed
  rcases outcome : (renderPass program.rulesets).outcome
    ⟨.ofBindings program.initializer, sheet⟩ with ⟨error | _, after⟩
  · rw [outcome] at failed
    obtain rfl := Except.error.inj failed
    rw [outcome_renderPass, Scope.afterVisit_eq_error_iff] at outcome
    obtain ⟨block, name, visited, rfl, _⟩ := outcome
    obtain ⟨placed, ⟨_, declared⟩, reference, unset⟩ := exists_lacks_of_visit_eq_some visited
    exact ⟨name, ⟨reference, block, placed, _, declared, rfl⟩, Table.get?_eq_none_iff.2 unset, rfl⟩
  · rw [outcome] at failed
    contradiction

end Programs

/-- **References are followed for one step.** A compiled program fails to start only with an
error that names a variable to which it refers and that is not set. If it starts, all variables
to which it refers are set, and the sign of variables is left in its rules exactly if the value
of one of them is again a reference. -/
theorem sigil_mem_rules_iff {source : String} {program : Program}
    (compiled : (Program.ofSource source).run.value = .ok program) :
    (∀ abandoned, (LiveSheet.start program ∅).run.value = .error abandoned →
      ∃ name, Ruleset.RefersTo program.rulesets name ∧
        program.initializer.get? name = none ∧ abandoned.error = .unknownVariable name) ∧
    ∀ live, (LiveSheet.start program ∅).run.value = .ok live →
      (∀ name, Ruleset.RefersTo program.rulesets name →
        ∃ value, program.initializer.get? name = some value) ∧
      ((∃ rule ∈ live.sheet.rules.toList, sigil ∈ rule.toList) ↔
        ∃ name value, Ruleset.RefersTo program.rulesets name ∧
          program.initializer.get? name = some value ∧ IsReference value) := by
  refine ⟨fun _ => LiveSheet.exists_unset_of_start_eq_error, fun live started => ?_⟩
  obtain ⟨cover, rfl⟩ := LiveSheet.start_eq_ok_iff.1 started
  refine ⟨fun _ => cover.exists_get?_eq_some, ?_⟩
  change (∃ rule ∈ (Sheet.insertAll ∅ _).rules.toList, _) ↔ _
  rw [Sheet.toList_insertAll_empty]
  exact (isExpressible_of_compiled compiled).sigil_mem_flatRules_iff cover

/-- A variable that is set to a reference, and a declaration that refers to it. -/
def secondHand : Program where
  initializer := .ofList [("$a", "$b")]
  rulesets := [⟨[".x"], .ofList [("color", "$a")], []⟩]

theorem ofSource_secondHand :
    (Program.ofSource "$a: $b; .x \x7b color: $a \x7d").run.value = .ok secondHand :=
  eq_ok_of_toOption (by decide +kernel)

/-- The reference in the variable stands in the rule as it is. -/
theorem start_secondHand :
    ∃ live, (LiveSheet.start secondHand ∅).run.value = .ok live ∧
      live.sheet.rules.toList = [".x \x7b color: $b \x7d"] := by
  have cover : secondHand.initializer.Cover secondHand.rulesets := by
    unfold Variables.Cover
    decide
  refine ⟨_, LiveSheet.start_eq_ok_iff.2 ⟨cover, rfl⟩, ?_⟩
  decide +kernel

/-- A reference to a variable that is set to a reference leaves the sign in the rule. -/
theorem sigil_mem_rules_iff_secondHand :
    (Program.ofSource "$a: $b; .x \x7b color: $a \x7d").run.value = .ok secondHand ∧
      ∃ live, (LiveSheet.start secondHand ∅).run.value = .ok live ∧
        ∃ rule ∈ live.sheet.rules.toList, sigil ∈ rule.toList := by
  obtain ⟨live, started, _⟩ := start_secondHand
  have referred : Ruleset.RefersTo secondHand.rulesets "$a" :=
    ⟨rfl, _, List.mem_singleton.2 rfl, _, List.mem_singleton.2 rfl, rfl⟩
  obtain ⟨_, kept⟩ := (sigil_mem_rules_iff ofSource_secondHand).2 live started
  exact ⟨ofSource_secondHand, live, started, kept.2 ⟨"$a", "$b", referred, rfl, rfl⟩⟩

/-- A reference to a variable that is not set reaches the rules without an error. -/
theorem unset_reference_reaches_rules :
    ∃ program live, (Program.ofSource "$a: $b; .x \x7b color: $a \x7d").run.value = .ok program ∧
      program.initializer.get? "$b" = none ∧
      (LiveSheet.start program ∅).run.value = .ok live ∧
      live.sheet.rules.toList = [".x \x7b color: $b \x7d"] := by
  obtain ⟨live, started, rules⟩ := start_secondHand
  exact ⟨secondHand, live, ofSource_secondHand, rfl, started, rules⟩

end NestedStyles
