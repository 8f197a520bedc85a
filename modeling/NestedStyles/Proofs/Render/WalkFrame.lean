import NestedStyles.Proofs.Render.FirstUnset

/-!
# What a walk leaves behind

A walk enters and leaves rulesets and inserts rules, and touches nothing else. If it comes to
its end, the scope is what it was before. If it stops, the rulesets on the way down to the one
at fault are open in addition to those that were open before, whichever these were. The way is
said without the walk (`Ruleset.LeadTo`), and blocks placed inside other groups are the blocks
placed inside none, moved there (`Ruleset.placedAll_eq_map_inside`). Main statement:
`rendering_keeps_frame`.
-/

namespace NestedStyles

/-- The same block with further groups around it. -/
def PlacedBlock.inside (around : List SelectorGroup) (block : PlacedBlock) : PlacedBlock where
  groups := around ++ block.groups
  declarations := block.declarations

theorem PlacedBlock.inside_comp_inside (outer inner : List SelectorGroup) :
    inside outer ∘ inside inner = inside (outer ++ inner) := by
  funext block
  simp only [Function.comp_apply, inside, List.append_assoc]

namespace Ruleset

/-- One of the rulesets, or one nested in them at any depth, is reached through the given groups:
those of the rulesets on the way down to it, its own being the last. -/
inductive LeadTo : List Ruleset → List SelectorGroup → Ruleset → Prop where
  | here {rulesets : List Ruleset} {ruleset : Ruleset} : ruleset ∈ rulesets →
      LeadTo rulesets [ruleset.selectors] ruleset
  | down {rulesets : List Ruleset} {ruleset target : Ruleset} {path : List SelectorGroup} :
      ruleset ∈ rulesets → LeadTo ruleset.nested path target →
      LeadTo rulesets (ruleset.selectors :: path) target

section Placed

mutual

/-- The blocks of a ruleset inside groups are its blocks with the groups around them. -/
theorem placed_eq_map_inside (around : List SelectorGroup) :
    (ruleset : Ruleset) →
      ruleset.placed around = (ruleset.placed []).map (PlacedBlock.inside around)
  | ⟨selectors, declarations, nested⟩ => by
      rw [placed, placed, placedAll_eq_map_inside (around ++ [selectors]) nested,
        placedAll_eq_map_inside ([] ++ [selectors]) nested, List.map_cons, List.map_map,
        PlacedBlock.inside_comp_inside]
      rfl

/-- Blocks are placed inside groups as they are inside none. -/
theorem placedAll_eq_map_inside (around : List SelectorGroup) :
    (rulesets : List Ruleset) →
      placedAll around rulesets = (placedAll [] rulesets).map (PlacedBlock.inside around)
  | [] => rfl
  | ruleset :: rest => by
      rw [placedAll, placedAll, placed_eq_map_inside around ruleset,
        placedAll_eq_map_inside around rest, List.map_append]

end

theorem LeadTo.mono {rulesets more : List Ruleset} {path : List SelectorGroup} {target : Ruleset}
    (leads : LeadTo rulesets path target) (among : rulesets ⊆ more) : LeadTo more path target := by
  cases leads with
  | here present => exact .here (among present)
  | down present leads => exact .down (among present) leads

mutual

/-- The groups of a block are the way down to the ruleset that it belongs to. -/
theorem exists_leadTo_of_mem_placed {block : PlacedBlock} :
    (ruleset : Ruleset) → block ∈ ruleset.placed [] →
      ∃ target, LeadTo [ruleset] block.groups target ∧
        target.declarations = block.declarations
  | ⟨selectors, declarations, nested⟩, member => by
      rw [placed, placedAll_eq_map_inside] at member
      rcases List.mem_cons.1 member with rfl | below
      · exact ⟨_, .here List.mem_cons_self, rfl⟩
      · obtain ⟨inner, placed, rfl⟩ := List.mem_map.1 below
        obtain ⟨target, leads, same⟩ := exists_leadTo_of_mem_placedAll nested placed
        exact ⟨target, .down List.mem_cons_self leads, same⟩

/-- The groups of a block lead to the ruleset that it belongs to. -/
theorem exists_leadTo_of_mem_placedAll {block : PlacedBlock} :
    (rulesets : List Ruleset) → block ∈ placedAll [] rulesets →
      ∃ target, LeadTo rulesets block.groups target ∧
        target.declarations = block.declarations
  | ruleset :: rest, member => by
      rw [placedAll] at member
      rcases List.mem_append.1 member with first | later
      · obtain ⟨target, leads, same⟩ := exists_leadTo_of_mem_placed ruleset first
        have among : [ruleset] ⊆ ruleset :: rest :=
          List.cons_subset.2 ⟨List.mem_cons_self, List.nil_subset _⟩
        exact ⟨target, leads.mono among, same⟩
      · obtain ⟨target, leads, same⟩ := exists_leadTo_of_mem_placedAll rest later
        exact ⟨target, leads.mono (List.subset_cons_self ruleset rest), same⟩

end

end Placed

end Ruleset

theorem Sheet.prefix_insertAll (sheet : Sheet) (rules : List String) :
    sheet.rules.toList <+: (sheet.insertAll rules).rules.toList := by
  simp [insertAll]

/-- What rendering rulesets leaves of a walk. -/
structure Walk.Frames (walk : Walk) (rulesets : List Ruleset)
    (result : Except RenderError Unit × Walk) : Prop where
  /-- The rules that the sheet held stay in front. -/
  sheet : walk.sheet.rules.toList <+: result.2.sheet.rules.toList
  /-- A walk that comes to its end leaves the scope as it was. -/
  finished : result.1 = .ok () → result.2.scope = walk.scope
  /-- A walk that stops leaves open, behind what was open, the rulesets on the way down to the
  first one at fault, and changes nothing else in the scope. -/
  stopped : ∀ error, result.1 = .error error →
    ∃ path culprit before behind name,
      Ruleset.LeadTo rulesets path culprit ∧
      Ruleset.placedAll [] rulesets = before ++ ⟨path, culprit.declarations⟩ :: behind ∧
      (∀ earlier ∈ before, walk.scope.bindings.missing? earlier.declarations = none) ∧
      walk.scope.bindings.missing? culprit.declarations = some name ∧
      error = .unknownVariable name ∧
      result.2.scope = { walk.scope with groups := walk.scope.groups ++ path }

/-- The first block at fault among blocks inside open rulesets is the first one among the same
blocks inside none. -/
theorem exists_first_of_visit_eq_some {bindings : Variables} {sheet stopped : Sheet}
    {around : List SelectorGroup} {rulesets : List Ruleset} {block : PlacedBlock} {name : String}
    (visited : visit bindings sheet (Ruleset.placedAll around rulesets) =
      (stopped, some (block, name))) :
    ∃ path culprit before behind, Ruleset.LeadTo rulesets path culprit ∧
      Ruleset.placedAll [] rulesets = before ++ ⟨path, culprit.declarations⟩ :: behind ∧
      (∀ earlier ∈ before, bindings.missing? earlier.declarations = none) ∧
      bindings.missing? culprit.declarations = some name ∧ block.groups = around ++ path := by
  obtain ⟨before, behind, split, complete, missing, _⟩ := visit_eq_some_iff.1 visited
  -- Moving blocks inside groups keeps their order, so the cut can be moved back.
  rw [Ruleset.placedAll_eq_map_inside] at split
  obtain ⟨front, rest, whole, rfl, moved⟩ := List.map_eq_append_iff.1 split
  obtain ⟨own, back, rfl, rfl, rfl⟩ := List.map_eq_cons_iff.1 moved
  have member : own ∈ Ruleset.placedAll [] rulesets := by
    rw [whole]
    exact List.mem_append_right front List.mem_cons_self
  obtain ⟨culprit, leads, same⟩ := Ruleset.exists_leadTo_of_mem_placedAll rulesets member
  refine ⟨own.groups, culprit, front, back, leads, ?_, List.forall_mem_map.1 complete, ?_, rfl⟩
  · rw [whole, same]
  · rw [same]
    exact missing

/-- Rendering follows the visit to its blocks, so the first block that stops the visit is the
ruleset that is left open, with the way down to it. -/
theorem frames_renderAll (rulesets : List Ruleset) (walk : Walk) :
    walk.Frames rulesets ((Ruleset.renderAll rulesets).outcome walk) := by
  obtain ⟨scope, sheet⟩ := walk
  rcases outcome : (Ruleset.renderAll rulesets).outcome ⟨scope, sheet⟩ with ⟨error | _, after⟩
  · rw [outcome_renderAll] at outcome
    obtain ⟨block, name, visited, rfl, opened⟩ := Scope.afterVisit_eq_error_iff.1 outcome
    refine ⟨?_, nofun, ?_⟩
    · obtain ⟨_, _, _, _, _, inserted⟩ := visit_eq_some_iff.1 visited
      rw [inserted]
      exact sheet.prefix_insertAll _
    · rintro error ⟨⟩
      obtain ⟨path, culprit, before, behind, leads, split, complete, missing, groups⟩ :=
        exists_first_of_visit_eq_some visited
      refine ⟨path, culprit, before, behind, name, leads, split, complete, missing, rfl, ?_⟩
      rw [opened, groups]
  · rw [outcome_renderAll, Scope.afterVisit_eq_ok_iff, visit_eq_none_iff] at outcome
    obtain ⟨same, _, inserted⟩ := outcome
    refine ⟨?_, fun _ => same, nofun⟩
    rw [inserted]
    exact sheet.prefix_insertAll _

/-- **A walk keeps everything but what it opens and inserts.** Rendering a ruleset or a list of
rulesets, from any scope and into any sheet, leaves the old rules in front. If it succeeds, the
scope is exactly what it was. If it fails, both tables of variables are what they were, and the
open rulesets are the old ones followed by those on the way down to the ruleset whose
declarations are at fault. -/
theorem rendering_keeps_frame (walk : Walk) :
    (∀ ruleset : Ruleset, walk.Frames [ruleset] (ruleset.render.run.run walk).value) ∧
      ∀ rulesets : List Ruleset,
        walk.Frames rulesets ((Ruleset.renderAll rulesets).run.run walk).value := by
  refine ⟨?_, fun rulesets => frames_renderAll rulesets walk⟩
  intro ruleset
  have alone : ruleset.render.outcome walk = (Ruleset.renderAll [ruleset]).outcome walk := by
    rw [outcome_render, outcome_renderAll, Ruleset.placedAll, Ruleset.placedAll, List.append_nil]
  have frames := frames_renderAll [ruleset] walk
  rw [← alone] at frames
  exact frames

-- A ruleset at fault on the second level, inside a group that an earlier walk left open.
example :
    ((Ruleset.render ⟨["b"], .ofList [("c", "d")], [⟨["e"], .ofList [("f", "$g")], []⟩]⟩).run.run
      { scope := { groups := [["a"]] } }).value.2.scope.groups = [["a"], ["b"], ["e"]] := by
  decide

end NestedStyles
