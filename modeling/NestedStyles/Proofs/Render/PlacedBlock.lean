import Mathlib.Data.List.Basic
import NestedStyles.Proofs.Table.Lookup
import NestedStyles.Render.Walk

/-!
# Placed blocks

A nested program listed block by block. Each ruleset contributes its declarations
together with the selector groups on the path to it, a ruleset before the rulesets
nested in it and these before the next ruleset (`Ruleset.placedAll`). The rules of
a placed block are written down without a stack: one for every choice of one
selector from each group (`choices`), each value replaced by what it stands for.

Rendering a program is visiting its placed blocks one after another, up to the
first one that refers to an unset variable (`outcome_renderAll`).
-/

namespace NestedStyles

/-- Every choice of one selector from each group, in lexicographic order with the
outermost choice most significant. -/
def choices : List SelectorGroup → List (List String)
  | [] => [[]]
  | group :: inner => group.flatMap fun chosen => (choices inner).map (chosen :: ·)

theorem ne_nil_of_mem_choices {group : SelectorGroup} {inner : List SelectorGroup}
    {choice : List String} (member : choice ∈ choices (group :: inner)) : choice ≠ [] := by
  rw [choices] at member
  obtain ⟨chosen, _, later⟩ := List.mem_flatMap.1 member
  obtain ⟨rest, _, rfl⟩ := List.mem_map.1 later
  exact List.cons_ne_nil chosen rest

/-- The flat selectors of a stack of groups are its choices, each written with
single blanks between the selectors. -/
theorem flatSelectors_eq_map_choices {groups : List SelectorGroup} (nonempty : groups ≠ []) :
    flatSelectors groups = (choices groups).map (" ".intercalate ·) := by
  fun_induction flatSelectors groups with
  | case1 => contradiction
  | case2 group => simp [choices, List.map_flatMap]
  | case3 group inner more ih =>
      obtain ⟨next, deeper, rfl⟩ := List.exists_cons_of_ne_nil more
      have outermost : choices (group :: next :: deeper) =
          group.flatMap fun chosen => (choices (next :: deeper)).map (chosen :: ·) := rfl
      rw [ih more, combine, outermost, List.map_flatMap]
      refine List.flatMap_congr fun ancestor _ => ?_
      rw [List.map_map, List.map_map]
      refine List.map_congr_left fun descendant member => ?_
      have chosen := ne_nil_of_mem_choices member
      simp only [Function.comp_apply, String.intercalate_cons_of_ne_nil chosen]

example : choices [["a", "b"], ["c"], ["d", "e"]] =
    [["a", "c", "d"], ["a", "c", "e"], ["b", "c", "d"], ["b", "c", "e"]] := by
  decide

namespace Variables

/-- A value that refers to a variable which is not set. -/
def Lacks (bindings : Variables) (value : String) : Prop :=
  IsReference value ∧ value ∉ bindings.names

instance (bindings : Variables) (value : String) : Decidable (bindings.Lacks value) :=
  inferInstanceAs (Decidable (_ ∧ _))

/-- The first declared value that refers to an unset variable. -/
def missing? (bindings : Variables) (declarations : Declarations) : Option String :=
  (declarations.entries.map Prod.snd).find? (bindings.Lacks ·)

/-- No variable is missing exactly if every reference among the values is set. -/
theorem missing?_eq_none_iff {bindings : Variables} {declarations : Declarations} :
    bindings.missing? declarations = none ↔
      ∀ entry ∈ declarations.entries, IsReference entry.2 → entry.2 ∈ bindings.names := by
  unfold missing?
  rw [List.find?_eq_none, List.forall_mem_map]
  refine forall₂_congr fun entry _ => ?_
  rw [decide_eq_true_eq]
  exact not_and_not_right

/-- The text that a declared value stands for: the variable's value if it refers
to a variable that is set. -/
def meaning (bindings : Variables) (value : String) : String :=
  if IsReference value then (bindings.get? value).getD value else value

end Variables

/-- A block of declarations with the selector groups on the path to it. -/
structure PlacedBlock where
  /-- The groups of the rulesets around the block and of its own, outermost first. -/
  groups : List SelectorGroup
  declarations : Declarations

namespace PlacedBlock

/-- The rules that a block stands for: none without declarations, and otherwise
one for every choice of selectors. -/
def rules (bindings : Variables) (block : PlacedBlock) : List String :=
  if block.declarations.isEmpty then []
  else
    let body := ";".intercalate
      (block.declarations.entries.map fun entry => entry.1 ++ ": " ++ bindings.meaning entry.2)
    (choices block.groups).map fun choice =>
      " ".intercalate choice ++ " \x7b " ++ body ++ " \x7d"

end PlacedBlock

namespace Ruleset

mutual

/-- The blocks of a ruleset inside the given groups, in preorder. -/
def placed (around : List SelectorGroup) : Ruleset → List PlacedBlock
  | ⟨selectors, declarations, nested⟩ =>
      ⟨around ++ [selectors], declarations⟩ :: placedAll (around ++ [selectors]) nested

/-- The blocks of rulesets one after another, each in preorder. -/
def placedAll (around : List SelectorGroup) : List Ruleset → List PlacedBlock
  | [] => []
  | ruleset :: rest => ruleset.placed around ++ placedAll around rest

end

/-- The blocks of rulesets are the blocks of any of them. -/
theorem mem_placedAll_iff {around : List SelectorGroup} {rulesets : List Ruleset}
    {block : PlacedBlock} :
    block ∈ placedAll around rulesets ↔ ∃ ruleset ∈ rulesets, block ∈ ruleset.placed around := by
  induction rulesets with
  | nil => simp [placedAll]
  | cons ruleset rulesets ih => rw [placedAll, List.mem_append, ih, List.exists_mem_cons_iff]

end Ruleset

/-- The sheet with rules inserted behind its own. -/
def Sheet.insertAll (sheet : Sheet) (rules : List String) : Sheet :=
  ⟨sheet.rules ++ rules.toArray⟩

theorem Sheet.insertAll_nil (sheet : Sheet) : sheet.insertAll [] = sheet := by
  unfold insertAll
  rw [Array.append_empty]

theorem Sheet.insertAll_insertAll (sheet : Sheet) (first second : List String) :
    (sheet.insertAll first).insertAll second = sheet.insertAll (first ++ second) := by
  unfold insertAll
  rw [← List.append_toArray, ← Array.append_assoc]

theorem Sheet.size_insertAll (sheet : Sheet) (rules : List String) :
    (sheet.insertAll rules).size = sheet.size + rules.length :=
  Array.size_append

/-- Visits placed blocks one after another and inserts their rules. The first
block that refers to an unset variable ends the visit and is given with that
variable. -/
def visit (bindings : Variables) (sheet : Sheet) :
    List PlacedBlock → Sheet × Option (PlacedBlock × String)
  | [] => (sheet, none)
  | block :: rest =>
      match bindings.missing? block.declarations with
      | some name => (sheet, some (block, name))
      | none => visit bindings (sheet.insertAll (block.rules bindings)) rest

/-- What a visit means for a walk with that scope: the scope is as before, or
the block that ended the visit is still open. -/
def Scope.afterVisit (scope : Scope) :
    Sheet × Option (PlacedBlock × String) → Except RenderError Unit × Walk
  | (sheet, none) => (.ok (), ⟨scope, sheet⟩)
  | (sheet, some (block, name)) =>
      (.error (.unknownVariable name), ⟨{ scope with groups := block.groups }, sheet⟩)

section Visits

/-- A visit to two lists of blocks goes on with the second where it has come through the
first. -/
theorem visit_append (bindings : Variables) (sheet : Sheet) (first second : List PlacedBlock) :
    visit bindings sheet (first ++ second) =
      match visit bindings sheet first with
      | (between, none) => visit bindings between second
      | (stopped, some stop) => (stopped, some stop) := by
  induction first generalizing sheet with
  | nil => rfl
  | cons block rest ih =>
      rw [List.cons_append, visit, visit]
      cases bindings.missing? block.declarations with
      | some name => rfl
      | none => exact ih _

/-- A visit comes to its end exactly if no block refers to an unset variable, and
then the rules of all blocks are inserted. -/
theorem visit_eq_none_iff {bindings : Variables} {sheet after : Sheet}
    {blocks : List PlacedBlock} :
    visit bindings sheet blocks = (after, none) ↔
      (∀ block ∈ blocks, bindings.missing? block.declarations = none) ∧
        after = sheet.insertAll (blocks.flatMap (PlacedBlock.rules bindings)) := by
  induction blocks generalizing sheet with
  | nil =>
      rw [visit, List.flatMap_nil, Sheet.insertAll_nil, Prod.mk.injEq]
      simp [eq_comm]
  | cons block rest ih =>
      rw [visit, List.forall_mem_cons, List.flatMap_cons, ← Sheet.insertAll_insertAll]
      cases bindings.missing? block.declarations with
      | some name => simp
      | none =>
          simp only [true_and]
          exact ih

/-- A walk comes to its end exactly if the visit does, and its scope is then as before. -/
theorem Scope.afterVisit_eq_ok_iff {scope : Scope}
    {visited : Sheet × Option (PlacedBlock × String)} {after : Walk} :
    scope.afterVisit visited = (.ok (), after) ↔
      after.scope = scope ∧ visited = (after.sheet, none) := by
  obtain ⟨sheet, none | ⟨block, name⟩⟩ := visited
  · rw [afterVisit, Prod.mk.injEq, Prod.mk.injEq]
    constructor
    · rintro ⟨_, rfl⟩
      exact ⟨rfl, rfl, rfl⟩
    · rintro ⟨rfl, rfl, _⟩
      exact ⟨rfl, rfl⟩
  · rw [afterVisit, Prod.mk.injEq, Prod.mk.injEq]
    constructor
    · rintro ⟨failed, _⟩
      contradiction
    · rintro ⟨_, _, stopped⟩
      contradiction

end Visits

/-- What a rendering action does to a walk, its reports aside. -/
def RenderM.outcome {α : Type} (action : RenderM α) (walk : Walk) :
    Except RenderError α × Walk :=
  (action.run.run walk).value

section Outcomes

variable {α β : Type}

/-- Rendering goes on from where a first step has come to. -/
theorem outcome_bind_of_ok {action : RenderM α} {next : α → RenderM β} {walk after : Walk}
    {value : α} (done : action.outcome walk = (.ok value, after)) :
    RenderM.outcome (action >>= next) walk = (next value).outcome after := by
  unfold RenderM.outcome at done ⊢
  rw [ExceptT.run_bind, StateT.run_bind, Logged.value_bind, done]

/-- Rendering stops where a first step fails, and keeps what was done. -/
theorem outcome_bind_of_error {action : RenderM α} {next : α → RenderM β} {walk after : Walk}
    {error : RenderError} (failed : action.outcome walk = (.error error, after)) :
    RenderM.outcome (action >>= next) walk = (.error error, after) := by
  unfold RenderM.outcome at failed ⊢
  rw [ExceptT.run_bind, StateT.run_bind, Logged.value_bind, failed]
  rfl

theorem outcome_changeScope (change : Scope → Scope) (walk : Walk) :
    (changeScope change).outcome walk = (.ok (), { walk with scope := change walk.scope }) := rfl

theorem outcome_insertRule (body selector : String) (walk : Walk) :
    (insertRule body selector).outcome walk =
      (.ok (), { walk with sheet := walk.sheet.insertAll [ruleText selector body] }) := rfl

/-- One rule is inserted for each selector, in order. -/
theorem outcome_forM_insertRule (body : String) (selectors : List String) (walk : Walk) :
    RenderM.outcome (selectors.forM (insertRule body)) walk =
      (.ok (), { walk with
        sheet := walk.sheet.insertAll (selectors.map (ruleText · body)) }) := by
  induction selectors generalizing walk with
  | nil =>
      rw [List.map_nil, Sheet.insertAll_nil]
      rfl
  | cons selector rest ih =>
      change RenderM.outcome (insertRule body selector >>= fun _ => rest.forM _) walk = _
      rw [outcome_bind_of_ok (outcome_insertRule body selector walk), ih,
        Sheet.insertAll_insertAll]
      rfl

end Outcomes

/-- A scope resolves a value to what the value stands for, unless the value
refers to an unset variable. -/
theorem Scope.resolve_eq (scope : Scope) (value : String) :
    scope.resolve value =
      if scope.bindings.Lacks value then .error (.unknownVariable value)
      else .ok (scope.bindings.meaning value) := by
  unfold resolve Variables.meaning
  by_cases reference : IsReference value
  · cases found : scope.bindings.get? value with
    | none =>
        have lacks : scope.bindings.Lacks value :=
          ⟨reference, Table.get?_eq_none_iff.1 found⟩
        simp only [reference, lacks, if_true]
    | some text =>
        have bound : ¬ scope.bindings.Lacks value := by
          intro lacks
          rw [Table.get?_eq_none_iff.2 lacks.2] at found
          contradiction
        simp only [reference, bound, if_true, if_false, Option.getD_some]
  · have literal : ¬ scope.bindings.Lacks value := fun lacks => reference lacks.1
    simp only [reference, literal, if_false]

/-- Declarations resolve to what their values stand for, unless one of them
refers to an unset variable; the first that does is the error. -/
theorem Scope.resolveAll_eq (scope : Scope) (declarations : Declarations) :
    scope.resolveAll declarations =
      match scope.bindings.missing? declarations with
      | some name => .error (.unknownVariable name)
      | none => .ok (declarations.entries.map fun entry =>
          (entry.1, scope.bindings.meaning entry.2)) := by
  unfold resolveAll Variables.missing?
  induction declarations.entries with
  | nil => rfl
  | cons entry rest ih =>
      obtain ⟨name, value⟩ := entry
      rw [List.mapM_cons, ih, List.map_cons, List.find?_cons]
      by_cases lacks : scope.bindings.Lacks value
      · simp only [Scope.resolve_eq, lacks, if_true, decide_true]
        rfl
      · simp only [Scope.resolve_eq, lacks, if_false, decide_false]
        cases (rest.map Prod.snd).find? (scope.bindings.Lacks ·) <;> rfl

/-- Inserting the rules of the innermost open ruleset either inserts exactly the
rules of its block, or changes nothing and names the block's first unset
variable. -/
theorem outcome_insertRules (declarations : Declarations) {scope : Scope} (sheet : Sheet)
    (inside : scope.groups ≠ []) :
    (insertRules declarations).outcome ⟨scope, sheet⟩ =
      match scope.bindings.missing? declarations with
      | some name => (.error (.unknownVariable name), ⟨scope, sheet⟩)
      | none => (.ok (), ⟨scope, sheet.insertAll
          (PlacedBlock.rules scope.bindings ⟨scope.groups, declarations⟩)⟩) := by
  unfold insertRules
  by_cases empty : declarations.isEmpty
  · have noEntries : declarations.entries = [] := List.isEmpty_iff.1 empty
    have complete : scope.bindings.missing? declarations = none := by
      simp [Variables.missing?, noEntries]
    simp only [empty, if_true, complete, PlacedBlock.rules, Sheet.insertAll_nil]
    rfl
  · have entered : RenderM.outcome (get : RenderM Walk) ⟨scope, sheet⟩ =
        (.ok ⟨scope, sheet⟩, ⟨scope, sheet⟩) := rfl
    have resolved := scope.resolveAll_eq declarations
    rw [if_neg empty, outcome_bind_of_ok entered]
    cases complete : scope.bindings.missing? declarations with
    | some name =>
        rw [complete] at resolved
        apply outcome_bind_of_error
        rw [resolved]
        rfl
    | none =>
        rw [complete] at resolved
        have lifted : RenderM.outcome (liftM (scope.resolveAll declarations)) ⟨scope, sheet⟩ =
            (.ok (declarations.entries.map fun entry =>
              (entry.1, scope.bindings.meaning entry.2)), ⟨scope, sheet⟩) := by
          rw [resolved]
          rfl
        have written : scope.selectors = (choices scope.groups).map (" ".intercalate ·) :=
          flatSelectors_eq_map_choices inside
        rw [outcome_bind_of_ok lifted, outcome_forM_insertRule, written, List.map_map, bodyText,
          List.map_map, PlacedBlock.rules, if_neg empty]
        rfl

mutual

/-- Rendering a ruleset is visiting its blocks. -/
theorem outcome_render (ruleset : Ruleset) (scope : Scope) (sheet : Sheet) :
    ruleset.render.outcome ⟨scope, sheet⟩ =
      scope.afterVisit (visit scope.bindings sheet (ruleset.placed scope.groups)) := by
  obtain ⟨selectors, declarations, nested⟩ := ruleset
  have inside : (scope.push selectors).groups ≠ [] :=
    List.append_ne_nil_of_right_ne_nil _ (List.cons_ne_nil _ _)
  have bindings : (scope.push selectors).bindings = scope.bindings := rfl
  have groups : (scope.push selectors).groups = scope.groups ++ [selectors] := rfl
  have own := outcome_insertRules declarations sheet inside
  rw [bindings, groups] at own
  rw [Ruleset.render, Ruleset.placed, visit, outcome_bind_of_ok (outcome_changeScope _ _)]
  cases complete : scope.bindings.missing? declarations with
  | some name =>
      rw [complete] at own
      exact outcome_bind_of_error own
  | none =>
      rw [complete] at own
      rw [outcome_bind_of_ok own]
      have inner := outcome_renderAll nested (scope.push selectors) (sheet.insertAll
        (PlacedBlock.rules scope.bindings ⟨scope.groups ++ [selectors], declarations⟩))
      rw [bindings, groups] at inner
      generalize visit scope.bindings _ (Ruleset.placedAll _ nested) = visited at inner ⊢
      -- The ruleset is left again only if no ruleset nested in it ends the visit.
      obtain ⟨after, none | ⟨block, name⟩⟩ := visited
      · rw [outcome_bind_of_ok inner, outcome_changeScope, Scope.pop_push]
        rfl
      · exact outcome_bind_of_error inner

/-- Rendering rulesets one after another is visiting their blocks. -/
theorem outcome_renderAll (rulesets : List Ruleset) (scope : Scope) (sheet : Sheet) :
    (Ruleset.renderAll rulesets).outcome ⟨scope, sheet⟩ =
      scope.afterVisit (visit scope.bindings sheet (Ruleset.placedAll scope.groups rulesets)) := by
  match rulesets with
  | [] => rfl
  | ruleset :: rest =>
      have first := outcome_render ruleset scope sheet
      rw [Ruleset.renderAll, Ruleset.placedAll, visit_append]
      generalize visit scope.bindings sheet (ruleset.placed scope.groups) = visited at first ⊢
      obtain ⟨between, none | ⟨block, name⟩⟩ := visited
      · rw [outcome_bind_of_ok first, outcome_renderAll rest scope between]
      · exact outcome_bind_of_error first

end

/-- **Rendering is the flat meaning of a program.** Rulesets are rendered
successfully exactly if every variable that some block refers to is set. The
sheet then holds its old rules followed by the rules of every block in preorder,
and the scope is as it was. -/
theorem renderAll_eq_ok_iff (rulesets : List Ruleset) (scope : Scope) (sheet : Sheet)
    (after : Walk) :
    ((Ruleset.renderAll rulesets).run.run ⟨scope, sheet⟩).value = (.ok (), after) ↔
      (∀ block ∈ Ruleset.placedAll scope.groups rulesets,
        ∀ entry ∈ block.declarations.entries,
          IsReference entry.2 → entry.2 ∈ scope.bindings.names) ∧
      after = ⟨scope, sheet.insertAll ((Ruleset.placedAll scope.groups rulesets).flatMap
        (PlacedBlock.rules scope.bindings))⟩ := by
  change (Ruleset.renderAll rulesets).outcome ⟨scope, sheet⟩ = _ ↔ _
  rw [outcome_renderAll, Scope.afterVisit_eq_ok_iff, visit_eq_none_iff]
  simp only [Variables.missing?_eq_none_iff]
  obtain ⟨scope', sheet'⟩ := after
  rw [Walk.mk.injEq, and_left_comm]

end NestedStyles
