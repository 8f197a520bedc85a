import NestedStyles.Proofs.Render.Outline
import NestedStyles.Render.Registry

/-!
# Runs of registry operations

What each operation does to a registry, and what follows for every registry that a
run of operations reaches. Main statement: live sheets never fail to render again,
neither one by one nor all at once (`live_sheets_never_fail`).
-/

namespace NestedStyles

/-- What a registry action does, its reports aside. -/
def RegistryM.outcome {α : Type} (action : RegistryM α) (registry : Registry) : α × Registry :=
  (action.run registry).value

namespace Registry

section Outcomes

variable (registry : Registry)

/-- The outcome of two actions is that of the second in the registry that the first leaves. -/
theorem outcome_bind {α β : Type} (action : RegistryM α) (next : α → RegistryM β) :
    RegistryM.outcome (action >>= next) registry =
      (next (action.outcome registry).1).outcome (action.outcome registry).2 := by
  unfold RegistryM.outcome
  rw [StateT.run_bind, Logged.value_bind]

theorem outcome_get : RegistryM.outcome (get : RegistryM Registry) registry =
    (registry, registry) := rfl

theorem outcome_register (live : LiveSheet) :
    (register live).outcome registry = (registry.nextId, registry.add live) := rfl

/-- A number that is not live leaves the registry as it is. -/
theorem outcome_unregister (id : Nat) :
    (unregister id).outcome registry =
      match registry.get? id with
      | none => (none, registry)
      | some live => (some live, registry.erase id) := by
  unfold unregister
  rw [outcome_bind, outcome_get]
  cases registry.get? id <;> rfl

/-- Only the sheet under the number is rendered again. -/
theorem outcome_render (id : Nat) (overrides : Variables) :
    (render id overrides).outcome registry =
      match registry.get? id with
      | none => (none, registry)
      | some live =>
          (some (live.rerender overrides).value.1,
            registry.replace id (live.rerender overrides).value.2) := by
  unfold render
  rw [outcome_bind, outcome_get]
  cases registry.get? id <;> rfl

/-- The error of rendering a live sheet again, under the number of the sheet. -/
def failure? (overrides : Variables) (entry : Nat × LiveSheet) : Option (Nat × RenderError) :=
  match (entry.2.rerender overrides).value.1 with
  | .ok () => none
  | .error error => some (entry.1, error)

/-- Live sheets that are rendered again one after another do not affect each
other. -/
theorem value_renderEntries (overrides : Variables) (entries : List (Nat × LiveSheet)) :
    (renderEntries overrides entries).value.1 = entries.filterMap (failure? overrides) ∧
      (renderEntries overrides entries).value.2.1 =
        entries.map fun entry => (entry.1, (entry.2.rerender overrides).value.2) := by
  induction entries with
  | nil => exact ⟨rfl, rfl⟩
  | cons entry rest ih =>
      obtain ⟨failed, after⟩ := ih
      simp only [renderEntries, Logged.value_bind, failure?, List.filterMap_cons, List.map_cons,
        ← after, failed]
      cases (entry.2.rerender overrides).value.1 <;> exact ⟨rfl, rfl⟩

/-- Every sheet is rendered again on its own, and the errors come in the order of the
numbers. -/
theorem outcome_renderAll (overrides : Variables) :
    ((renderAll overrides).outcome registry).1 =
        registry.entries.filterMap (failure? overrides) ∧
      ((renderAll overrides).outcome registry).2.entries =
        registry.entries.map fun entry => (entry.1, (entry.2.rerender overrides).value.2) :=
  value_renderEntries overrides registry.entries

/-- Disposing of sheets does not change the registry. -/
theorem outcome_mapM_dispose (entries : List (Nat × LiveSheet)) :
    RegistryM.outcome (entries.mapM fun entry => liftM entry.2.dispose) registry =
      (entries.map fun _ => ∅, registry) := by
  induction entries with
  | nil => rfl
  | cons entry rest ih =>
      have first : RegistryM.outcome (liftM entry.2.dispose) registry = (∅, registry) := rfl
      rw [List.mapM_cons, outcome_bind, first, outcome_bind, ih]
      rfl

/-- All sheets are taken out, and each is left empty. -/
theorem outcome_disposeAll :
    disposeAll.outcome registry = (registry.entries.map fun _ => ∅, registry.clear) :=
  outcome_mapM_dispose registry.clear registry.entries

end Outcomes

/-- What callers do with a registry. -/
inductive Operation where
  | register (live : LiveSheet)
  | unregister (id : Nat)
  | render (id : Nat) (overrides : Variables)
  | renderAll (overrides : Variables)
  | disposeAll

/-- The registry after an operation. -/
def after (registry : Registry) : Operation → Registry
  | .register live => ((register live).outcome registry).2
  | .unregister id => ((unregister id).outcome registry).2
  | .render id overrides => ((render id overrides).outcome registry).2
  | .renderAll overrides => ((renderAll overrides).outcome registry).2
  | .disposeAll => (disposeAll.outcome registry).2

/-- An entry behind an operation was there before, or has just been registered, or
was there before and has been rendered again. -/
theorem mem_entries_after {registry : Registry} {operation : Operation}
    {entry : Nat × LiveSheet} (member : entry ∈ (registry.after operation).entries) :
    entry ∈ registry.entries ∨ operation = .register entry.2 ∨
      ∃ earlier ∈ registry.entries, ∃ overrides,
        entry.2 = (earlier.2.rerender overrides).value.2 := by
  cases operation with
  | register live =>
      rw [after, outcome_register] at member
      rcases List.mem_append.1 member with earlier | last
      · exact Or.inl earlier
      · rw [List.mem_singleton.1 last]
        exact Or.inr (Or.inl rfl)
  | unregister id =>
      rw [after, outcome_unregister] at member
      cases found : registry.get? id with
      | none =>
          rw [found] at member
          exact Or.inl member
      | some live =>
          rw [found] at member
          exact Or.inl (List.mem_filter.1 member).1
  | render id overrides =>
      rw [after, outcome_render] at member
      cases found : registry.get? id with
      | none =>
          rw [found] at member
          exact Or.inl member
      | some live =>
          rw [found] at member
          obtain ⟨earlier, present, same⟩ := List.mem_map.1 member
          by_cases here : earlier.1 = id
          · obtain ⟨before, behind, split, _⟩ := List.lookup_eq_some_iff.1 found
            rw [if_pos here] at same
            refine Or.inr (Or.inr ⟨(id, live), ?_, overrides, ?_⟩)
            · rw [split]
              exact List.mem_append_right before List.mem_cons_self
            · rw [← same]
          · rw [if_neg here] at same
            rw [← same]
            exact Or.inl present
  | renderAll overrides =>
      rw [after, (outcome_renderAll registry overrides).2] at member
      obtain ⟨earlier, present, rfl⟩ := List.mem_map.1 member
      exact Or.inr (Or.inr ⟨earlier, present, overrides, rfl⟩)
  | disposeAll =>
      rw [after, outcome_disposeAll] at member
      cases member

/-- Registries that callers can bring about: they start with no sheets, and register
only sheets that they came by in the regular way. -/
inductive Reachable : Registry → Prop where
  | empty : Reachable ∅
  | after {registry : Registry} (operation : Operation) : Reachable registry →
      (∀ live, operation = .register live → live.Running) → Reachable (registry.after operation)

/-- The sheets of a reachable registry have all been started. -/
theorem Reachable.running {registry : Registry} (reachable : registry.Reachable) :
    ∀ entry ∈ registry.entries, entry.2.Running := by
  induction reachable with
  | empty =>
      intro entry member
      cases member
  | after operation _ regular ih =>
      intro entry member
      rcases mem_entries_after member with
        present | registered | ⟨earlier, present, overrides, same⟩
      · exact ih entry present
      · exact regular entry.2 registered
      · rw [same]
        exact .rerendered overrides (ih earlier present)

theorem failure?_of_running {entry : Nat × LiveSheet} (running : entry.2.Running)
    (overrides : Variables) : failure? overrides entry = none := by
  rw [failure?, LiveSheet.rerender_of_cover running.cover]

end Registry

/-- **Live sheets never fail to render again.** Once a live sheet has been started,
from a program or from a listed program, every rendering in every run of renderings
succeeds and leaves as many rules as the first rendering inserted. The rules of both are
those of the same outlines, so they have the same selectors and the same property names,
in the same order: under the program's own variables at first, and with the last overrides
on top of them later. Therefore rendering all sheets of a registry that callers can bring
about reports no failures. -/
theorem live_sheets_never_fail :
    (∀ sheet live, LiveSheet.StartedBehind sheet live →
      live.sheet = sheet.insertAll
        ((Ruleset.outlines live.rulesets).map (Outline.rule live.base)) ∧
      ∀ earlier last,
        ((live.rerenderAll earlier).rerender last).value.1 = .ok () ∧
        sheet.size + (live.rerenderAll (earlier ++ [last])).sheet.size = live.sheet.size ∧
        (live.rerenderAll (earlier ++ [last])).sheet.rules.toList =
          (Ruleset.outlines live.rulesets).map (Outline.rule (live.base.override last))) ∧
    ∀ registry : Registry, registry.Reachable → ∀ overrides,
      ((Registry.renderAll overrides).run registry).value.1 = [] := by
  constructor
  · intro sheet live started
    refine ⟨started.sheet_eq, fun earlier last => ?_⟩
    obtain ⟨succeeded, filled⟩ := LiveSheet.rerender_fills_outlines started.cover earlier last
    have again : (live.rerenderAll (earlier ++ [last])).sheet.size =
        (Ruleset.outlines live.rulesets).length := by
      rw [Sheet.size, ← Array.length_toList, filled, List.length_map]
    refine ⟨succeeded, ?_, filled⟩
    rw [again, started.sheet_eq, Sheet.size_insertAll, List.length_map]
  · intro registry reachable overrides
    refine (Registry.outcome_renderAll registry overrides).1.trans ?_
    refine List.filterMap_eq_nil_iff.2 fun entry member => ?_
    exact Registry.failure?_of_running (reachable.running entry member) overrides

/-- A box is rendered behind a rule of another origin, twice again on its own, and in a
registry. -/
theorem live_sheets_never_fail_coloredBox :
    ∃ live, LiveSheet.StartedBehind ⟨#["p \x7b margin: 0 \x7d"]⟩ live ∧
      live.sheet.rules.toList = ["p \x7b margin: 0 \x7d", ".box \x7b color: red \x7d"] ∧
      (live.rerenderAll
        [.ofList [("$gap", "4px")], .ofList [("$color", "blue")]]).sheet.rules.toList =
          [".box \x7b color: blue \x7d"] ∧
      (((∅ : Registry).after (.register live)).after
        (.render 0 (.ofList [("$color", "blue")]))).Reachable ∧
      ((Registry.renderAll ∅).run (((∅ : Registry).after (.register live)).after
        (.render 0 (.ofList [("$color", "blue")])))).value.1 = [] := by
  have started : (LiveSheet.start LiveSheet.coloredBox ⟨#["p \x7b margin: 0 \x7d"]⟩).run.value =
      .ok _ := LiveSheet.start_eq_ok_iff.2 ⟨LiveSheet.cover_coloredBox, rfl⟩
  have behind : LiveSheet.StartedBehind _ _ := Or.inl ⟨_, started⟩
  obtain ⟨rerendered, registered⟩ := live_sheets_never_fail
  obtain ⟨first, renderings⟩ := rerendered _ _ behind
  obtain ⟨_, _, filled⟩ := renderings [.ofList [("$gap", "4px")]] (.ofList [("$color", "blue")])
  have reachable := Registry.Reachable.after (.render 0 (.ofList [("$color", "blue")]))
    (.after (.register _) .empty fun live same =>
      Registry.Operation.register.inj same ▸ .started behind) nofun
  refine ⟨_, behind, ?_, filled.trans ?_, reachable, registered _ reachable ∅⟩
  · rw [first]
    decide
  · decide

end NestedStyles
