import NestedStyles.Proofs.Render.PlacedBlock

/-!
# Where a rendering stops

Rendering fails exactly if some block refers to an unset variable. It then stops
in front of the first such block in preorder: the blocks before it have all their
rules in the sheet, the block itself and the blocks behind it have none
(`renderAll_eq_error_iff`).
-/

namespace NestedStyles

namespace Variables

/-- The missing variable of declarations is the first declared value that refers
to an unset variable. -/
theorem missing?_eq_some_iff {bindings : Variables} {declarations : Declarations}
    {name : String} :
    bindings.missing? declarations = some name ↔
      ∃ earlier property later, declarations.entries = earlier ++ (property, name) :: later ∧
        (∀ entry ∈ earlier, ¬ bindings.Lacks entry.2) ∧ bindings.Lacks name := by
  unfold missing?
  rw [List.find?_map, Option.map_eq_some_iff]
  constructor
  · rintro ⟨⟨property, value⟩, found, rfl⟩
    obtain ⟨lacks, earlier, later, split, complete⟩ := List.find?_eq_some_iff_append.1 found
    refine ⟨earlier, property, later, split, fun entry member => ?_, of_decide_eq_true lacks⟩
    simpa using complete entry member
  · rintro ⟨earlier, property, later, split, complete, lacks⟩
    refine ⟨(property, name), List.find?_eq_some_iff_append.2 ?_, rfl⟩
    refine ⟨decide_eq_true lacks, earlier, later, split, fun entry member => ?_⟩
    simpa using complete entry member

/-- No variable is missing exactly if none of the declared values refers to an unset one. -/
theorem missing?_eq_none_iff_forall {bindings : Variables} {declarations : Declarations} :
    bindings.missing? declarations = none ↔
      ∀ entry ∈ declarations.entries, ¬ bindings.Lacks entry.2 := by
  rw [missing?_eq_none_iff]
  refine forall₂_congr fun entry _ => ?_
  exact not_and_not_right.symm

end Variables

/-- A visit is ended by the first block that refers to an unset variable, with the
rules of exactly the blocks before it inserted. -/
theorem visit_eq_some_iff {bindings : Variables} {sheet stopped : Sheet}
    {blocks : List PlacedBlock} {block : PlacedBlock} {name : String} :
    visit bindings sheet blocks = (stopped, some (block, name)) ↔
      ∃ before behind, blocks = before ++ block :: behind ∧
        (∀ earlier ∈ before, bindings.missing? earlier.declarations = none) ∧
        bindings.missing? block.declarations = some name ∧
        stopped = sheet.insertAll (before.flatMap (PlacedBlock.rules bindings)) := by
  constructor
  · intro visited
    induction blocks generalizing sheet with
    | nil => cases visited
    | cons first rest ih =>
        rw [visit] at visited
        cases missing : bindings.missing? first.declarations with
        | some unset =>
            rw [missing] at visited
            obtain ⟨rfl, rfl, rfl⟩ : sheet = stopped ∧ first = block ∧ unset = name := by
              simpa using visited
            exact ⟨[], rest, rfl, List.forall_mem_nil _, missing, sheet.insertAll_nil.symm⟩
        | none =>
            rw [missing] at visited
            obtain ⟨before, behind, rfl, complete, unset, rfl⟩ := ih visited
            refine ⟨first :: before, behind, rfl, ?_, unset, ?_⟩
            · exact List.forall_mem_cons.2 ⟨missing, complete⟩
            · rw [List.flatMap_cons, Sheet.insertAll_insertAll]
  · rintro ⟨before, behind, rfl, complete, unset, rfl⟩
    -- The blocks before it are visited to their end, and the next one ends the visit.
    have passed : visit bindings sheet before = (_, none) :=
      visit_eq_none_iff.2 ⟨complete, rfl⟩
    rw [visit_append, passed]
    change visit bindings _ (block :: behind) = _
    rw [visit, unset]

/-- The block that ends a visit declares a value that refers to an unset variable. -/
theorem exists_lacks_of_visit_eq_some {bindings : Variables} {sheet stopped : Sheet}
    {blocks : List PlacedBlock} {block : PlacedBlock} {name : String}
    (visited : visit bindings sheet blocks = (stopped, some (block, name))) :
    block ∈ blocks ∧ (∃ property, (property, name) ∈ block.declarations.entries) ∧
      bindings.Lacks name := by
  obtain ⟨before, behind, split, _, missing, _⟩ := visit_eq_some_iff.1 visited
  obtain ⟨earlier, property, later, entries, _, lacks⟩ :=
    Variables.missing?_eq_some_iff.1 missing
  refine ⟨?_, ⟨property, ?_⟩, lacks⟩
  · rw [split]
    exact List.mem_append_right before List.mem_cons_self
  · rw [entries]
    exact List.mem_append_right earlier List.mem_cons_self

/-- A walk stops exactly if the visit does, with the groups of the block that stopped it
open. -/
theorem Scope.afterVisit_eq_error_iff {scope : Scope}
    {visited : Sheet × Option (PlacedBlock × String)} {error : RenderError} {after : Walk} :
    scope.afterVisit visited = (.error error, after) ↔
      ∃ block name, visited = (after.sheet, some (block, name)) ∧
        error = .unknownVariable name ∧ after.scope = { scope with groups := block.groups } := by
  obtain ⟨sheet, none | ⟨block, name⟩⟩ := visited
  · rw [afterVisit, Prod.mk.injEq]
    constructor
    · rintro ⟨succeeded, _⟩
      cases succeeded
    · rintro ⟨_, _, stopped, _⟩
      cases stopped
  · rw [afterVisit, Prod.mk.injEq]
    constructor
    · rintro ⟨failed, rfl⟩
      exact ⟨block, name, rfl, (Except.error.inj failed).symm, rfl⟩
    · obtain ⟨scope', sheet'⟩ := after
      rintro ⟨block', name', stopped, rfl, rfl⟩
      cases stopped
      exact ⟨rfl, rfl⟩

/-- Rendering fails exactly if some block refers to an unset variable. -/
theorem exists_outcome_renderAll_eq_error_iff {rulesets : List Ruleset} {scope : Scope}
    {sheet : Sheet} :
    (∃ error after,
      (Ruleset.renderAll rulesets).outcome ⟨scope, sheet⟩ = (.error error, after)) ↔
        ∃ block ∈ Ruleset.placedAll scope.groups rulesets,
          ∃ entry ∈ block.declarations.entries, scope.bindings.Lacks entry.2 := by
  constructor
  · rintro ⟨error, after, failed⟩
    rw [outcome_renderAll] at failed
    obtain ⟨block, name, visited, _⟩ := Scope.afterVisit_eq_error_iff.1 failed
    obtain ⟨placed, ⟨property, declared⟩, lacks⟩ := exists_lacks_of_visit_eq_some visited
    exact ⟨block, placed, (property, name), declared, lacks⟩
  · rintro ⟨block, placed, entry, declared, lacks⟩
    rcases outcome : (Ruleset.renderAll rulesets).outcome ⟨scope, sheet⟩ with ⟨error | _, after⟩
    · exact ⟨error, after, rfl⟩
    · rw [outcome_renderAll, Scope.afterVisit_eq_ok_iff, visit_eq_none_iff] at outcome
      have complete := Variables.missing?_eq_none_iff_forall.1 (outcome.2.1 block placed)
      exact absurd lacks (complete entry declared)

/-- **A failing rendering stops at exactly the first block at fault.** Rendering
fails exactly if some block, at any depth, declares a value that refers to an unset
variable. The error names the first such value of the first such block in
preorder. The sheet holds its old rules followed by the rules of the blocks before
that block, and the rulesets on the path to it are still open. -/
theorem renderAll_eq_error_iff (rulesets : List Ruleset) (scope : Scope) (sheet : Sheet) :
    ((∃ error after,
      ((Ruleset.renderAll rulesets).run.run ⟨scope, sheet⟩).value = (.error error, after)) ↔
        ∃ block ∈ Ruleset.placedAll scope.groups rulesets,
          ∃ entry ∈ block.declarations.entries, scope.bindings.Lacks entry.2) ∧
    ∀ error after,
      ((Ruleset.renderAll rulesets).run.run ⟨scope, sheet⟩).value = (.error error, after) ↔
        ∃ before block behind,
          Ruleset.placedAll scope.groups rulesets = before ++ block :: behind ∧
          (∀ earlier ∈ before,
            ∀ entry ∈ earlier.declarations.entries, ¬ scope.bindings.Lacks entry.2) ∧
          (∃ earlier property value later,
            block.declarations.entries = earlier ++ (property, value) :: later ∧
            (∀ entry ∈ earlier, ¬ scope.bindings.Lacks entry.2) ∧
            scope.bindings.Lacks value ∧ error = .unknownVariable value) ∧
          after = ⟨{ scope with groups := block.groups },
            sheet.insertAll (before.flatMap (PlacedBlock.rules scope.bindings))⟩ := by
  change ((∃ error after, (Ruleset.renderAll rulesets).outcome ⟨scope, sheet⟩ = _) ↔ _) ∧
    ∀ error after, (Ruleset.renderAll rulesets).outcome ⟨scope, sheet⟩ = _ ↔ _
  refine ⟨exists_outcome_renderAll_eq_error_iff, fun error after => ?_⟩
  rw [outcome_renderAll, Scope.afterVisit_eq_error_iff]
  simp only [visit_eq_some_iff, Variables.missing?_eq_some_iff,
    Variables.missing?_eq_none_iff_forall]
  constructor
  · rintro ⟨block, name, ⟨before, behind, split, complete, ⟨earlier, property, later, entries,
      resolved, lacks⟩, inserted⟩, rfl, opened⟩
    refine ⟨before, block, behind, split, complete, ?_, ?_⟩
    · exact ⟨earlier, property, name, later, entries, resolved, lacks, rfl⟩
    · rw [← opened, ← inserted]
  · rintro ⟨before, block, behind, split, complete, ⟨earlier, property, value, later, entries,
      resolved, lacks, rfl⟩, rfl⟩
    refine ⟨block, value, ⟨before, behind, split, complete, ?_, rfl⟩, rfl, rfl⟩
    exact ⟨earlier, property, later, entries, resolved, lacks⟩

end NestedStyles
