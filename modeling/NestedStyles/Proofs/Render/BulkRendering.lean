import Mathlib.Data.List.Count
import NestedStyles.Proofs.Render.RegistryHistory

/-!
# Rendering all sheets at once

Operations that only render leave the numbers of a registry alone, and each sheet goes
through the renderings that reach it. Runs that bring the same renderings to each sheet
therefore leave the same registry, however the renderings of different sheets are
interleaved (`Registry.afterAll_eq_of_isRendering`). Main statement: rendering all sheets at
once is rendering each of them once, in any order, and what it leaves of a sheet follows
from the sheet's own variables, whatever happened before.
-/

namespace NestedStyles

namespace Registry

/-- Operations that render sheets again and do nothing else. -/
def Operation.IsRendering : Operation → Prop
  | render .. => True
  | renderAll _ => True
  | _ => False

section Renderings

variable {registry : Registry} {operation : Operation} {operations : List Operation} {id : Nat}

theorem Operation.IsRendering.registered?_eq_none (rendering : operation.IsRendering) :
    operation.registered? = none := by
  cases operation with
  | register live => exact rendering.elim
  | unregister id | render id overrides | renderAll overrides | disposeAll => rfl

theorem Operation.IsRendering.not_removes (rendering : operation.IsRendering) (id : Nat) :
    ¬ operation.Removes id := by
  cases operation with
  | unregister other => exact rendering.elim
  | disposeAll => exact rendering.elim
  | register live | render other overrides | renderAll overrides => exact not_false

/-- The next number grows by the registrations of a run. -/
theorem nextId_afterAll (registry : Registry) (operations : List Operation) :
    (registry.afterAll operations).nextId =
      registry.nextId + (registrationsFrom registry.nextId operations).length := by
  induction operations generalizing registry with
  | nil => rfl
  | cons operation later ih =>
      change ((registry.after operation).afterAll later).nextId = _
      rw [ih, registrationsFrom_cons, List.length_append, List.length_map, ← Nat.add_assoc,
        ← nextId_after]

theorem registrationsFrom_eq_nil (only : ∀ operation ∈ operations, operation.IsRendering)
    (next : Nat) : registrationsFrom next operations = [] := by
  induction operations with
  | nil => rfl
  | cons operation later ih =>
      obtain ⟨rendering, only⟩ := List.forall_mem_cons.1 only
      rw [registrationsFrom, rendering.registered?_eq_none]
      exact ih only

/-- Renderings leave each number with its sheet after those that reach it. -/
theorem entries_afterAll_of_isRendering (registry : Registry)
    (only : ∀ operation ∈ operations, operation.IsRendering) :
    (registry.afterAll operations).entries =
      registry.entries.map fun entry =>
        (entry.1, entry.2.rerenderAll (operations.filterMap (·.overrides? entry.1))) := by
  have live : (fun entry : Nat × LiveSheet =>
        Registration.entry? ⟨entry.1, entry.2, operations⟩) =
      some ∘ fun entry =>
        (entry.1, entry.2.rerenderAll (operations.filterMap (·.overrides? entry.1))) := by
    funext entry
    exact if_pos fun operation member => (only operation member).not_removes entry.1
  rw [entries_afterAll, registrationsFrom_eq_nil only, live, List.filterMap_eq_map,
    List.filterMap_nil, List.append_nil]

/-- Runs of renderings leave the same registry if they bring the same overrides to each live
sheet, in the same order. -/
theorem afterAll_eq_of_isRendering {first second : List Operation}
    (firstOnly : ∀ operation ∈ first, operation.IsRendering)
    (secondOnly : ∀ operation ∈ second, operation.IsRendering)
    (same : ∀ id ∈ registry.ids,
      first.filterMap (·.overrides? id) = second.filterMap (·.overrides? id)) :
    registry.afterAll first = registry.afterAll second := by
  apply Registry.ext
  · rw [nextId_afterAll, nextId_afterAll, registrationsFrom_eq_nil firstOnly,
      registrationsFrom_eq_nil secondOnly]
  · rw [entries_afterAll_of_isRendering registry firstOnly,
      entries_afterAll_of_isRendering registry secondOnly]
    apply List.map_congr_left
    intro entry member
    rw [same entry.1 (List.mem_map_of_mem member)]

/-- Renderings of single sheets reach a sheet as often as they name its number. -/
theorem filterMap_overrides?_render (order : List Nat) (overrides : Variables) (id : Nat) :
    (order.map (Operation.render · overrides)).filterMap (·.overrides? id) =
      List.replicate (order.count id) overrides := by
  induction order with
  | nil => rfl
  | cons other order ih =>
      by_cases same : other = id
      · have reached : (Operation.render other overrides).overrides? id = some overrides :=
          if_pos same
        rw [List.map_cons, List.filterMap_cons_some reached, ih, same, List.count_cons_self,
          List.replicate_succ]
      · have passed : (Operation.render other overrides).overrides? id = none := if_neg same
        rw [List.map_cons, List.filterMap_cons_none passed, ih, List.count_cons_of_ne same]

/-- A sheet that is not taken out goes through the renderings that reach it. -/
theorem get?_afterAll {live : LiveSheet} (stored : registry.get? id = some live)
    (kept : ∀ operation ∈ operations, ¬ operation.Removes id) :
    (registry.afterAll operations).get? id =
      some (live.rerenderAll (operations.filterMap (·.overrides? id))) := by
  rw [get?_eq_some_iff, entries_afterAll]
  apply List.mem_append_left
  exact List.mem_filterMap.2 ⟨(id, live), get?_eq_some_iff.1 stored, if_pos kept⟩

end Renderings

end Registry

/-- **Rendering all sheets is rendering each of them.** The registry is afterwards as if each
live sheet had been rendered once on its own with the same overrides, in any order of the
numbers. A sheet in a registry that callers can bring about is then rendered with the
overrides on top of its own variables, whatever was done before, as long as it was not taken
out. -/
theorem renderAll_eq_renders_in_any_order :
    (∀ (registry : Registry) (overrides : Variables) (order : List Nat),
      order.Perm registry.ids →
      registry.afterAll (order.map (Registry.Operation.render · overrides)) =
        registry.after (.renderAll overrides)) ∧
    ∀ registry : Registry, registry.Reachable → ∀ id live, registry.get? id = some live →
      ∀ earlier : List Registry.Operation, (∀ operation ∈ earlier, ¬ operation.Removes id) →
        ∀ overrides, ((registry.afterAll earlier).after (.renderAll overrides)).get? id =
          some (LiveSheet.under live.rulesets live.base overrides) := by
  constructor
  · intro registry overrides order permuted
    have singles : ∀ operation ∈ order.map (Registry.Operation.render · overrides),
        operation.IsRendering := List.forall_mem_map.2 fun _ _ => trivial
    have bulk : ∀ operation ∈ [Registry.Operation.renderAll overrides],
        operation.IsRendering := List.forall_mem_singleton.2 trivial
    have distinct : order.Nodup := permuted.nodup_iff.2 (registry.ascending.imp Nat.ne_of_lt)
    apply Registry.afterAll_eq_of_isRendering singles bulk
    intro id member
    rw [Registry.filterMap_overrides?_render,
      List.count_eq_one_of_mem distinct (permuted.mem_iff.2 member)]
    rfl
  · intro registry reachable id live stored earlier kept overrides
    have cover := (reachable.running _ (Registry.get?_eq_some_iff.1 stored)).cover
    have keptAll : ∀ operation ∈ earlier ++ [.renderAll overrides], ¬ operation.Removes id :=
      List.forall_mem_append.2 ⟨kept, List.forall_mem_singleton.2 not_false⟩
    have after := Registry.get?_afterAll stored keptAll
    rw [Registry.afterAll, List.foldl_append, List.filterMap_append] at after
    exact after.trans (congrArg some (LiveSheet.rerenderAll_concat cover _ overrides))

/-- The registry with the same live sheet under two numbers, of which the second has been
rendered with other variables. -/
def twoBoxes (live : LiveSheet) : Registry :=
  (∅ : Registry).afterAll
    [.register live, .register live, .render 1 (.ofList [("$color", "green")])]

theorem reachable_twoBoxes {live : LiveSheet} (running : live.Running) :
    (twoBoxes live).Reachable := by
  have regular : ∀ other, Registry.Operation.register live = .register other → other.Running :=
    fun other same => Registry.Operation.register.inj same ▸ running
  exact .after (.render 1 (.ofList [("$color", "green")]))
    (.after (.register live) (.after (.register live) .empty regular) regular) nofun

/-- Two sheets are rendered one by one, the later one first, and one is left once the other has
been taken out. -/
theorem renderAll_eq_renders_in_any_order_twoBoxes :
    ∃ live, (LiveSheet.start LiveSheet.coloredBox ∅).run.value = .ok live ∧
      (twoBoxes live).Reachable ∧ (twoBoxes live).ids = [0, 1] ∧
      (twoBoxes live).afterAll [.render 1 (.ofList [("$gap", "4px")]),
          .render 0 (.ofList [("$gap", "4px")])] =
        (twoBoxes live).after (.renderAll (.ofList [("$gap", "4px")])) ∧
      (((twoBoxes live).afterAll [.unregister 0, .render 1 ∅]).after
          (.renderAll (.ofList [("$gap", "4px")]))).get? 1 =
        some (LiveSheet.under LiveSheet.coloredBox.rulesets LiveSheet.coloredBox.initializer
          (.ofList [("$gap", "4px")])) := by
  have started : (LiveSheet.start LiveSheet.coloredBox ∅).run.value = .ok _ :=
    LiveSheet.start_eq_ok_iff.2 ⟨LiveSheet.cover_coloredBox, rfl⟩
  have reachable := reachable_twoBoxes (.started (.inl ⟨_, started⟩))
  obtain ⟨orders, relative⟩ := renderAll_eq_renders_in_any_order
  refine ⟨_, started, reachable, rfl, orders _ _ [1, 0] (.swap _ _ _), ?_⟩
  exact relative _ reachable 1 _ rfl [.unregister 0, .render 1 ∅] (by decide) _

end NestedStyles
