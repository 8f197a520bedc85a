import NestedStyles.Render.LiveSheet

/-!
# Registries

Live sheets under numbers that are given out in order and never again.
-/

namespace NestedStyles

/-- Live sheets by number, in the order in which they were registered. -/
@[ext]
structure Registry where
  /-- The number of the next sheet. It stands for a counter of 64 bits, with which it
  agrees as long as fewer than `2 ^ 64` sheets are registered. -/
  nextId : Nat
  /-- The live sheets with their numbers. -/
  entries : List (Nat × LiveSheet)
  ascending : (entries.map Prod.fst).Pairwise (· < ·)
  below : ∀ id ∈ entries.map Prod.fst, id < nextId

/-- Changing a registry: reports events. -/
abbrev RegistryM := StateT Registry Logged

namespace Registry

/-- The registry before anything is registered. -/
def empty : Registry where
  nextId := 0
  entries := []
  ascending := .nil
  below := by
    intro id present
    cases present

instance : EmptyCollection Registry := ⟨empty⟩

/-- The numbers of the live sheets. -/
def ids (registry : Registry) : List Nat := registry.entries.map Prod.fst

/-- How many sheets are live. -/
def size (registry : Registry) : Nat := registry.entries.length

/-- Whether no sheet is live. -/
def isEmpty (registry : Registry) : Bool := registry.entries.isEmpty

/-- The live sheet of a number. -/
def get? (registry : Registry) (id : Nat) : Option LiveSheet :=
  registry.entries.lookup id

/-- The registry with a sheet under the next number. -/
def add (registry : Registry) (live : LiveSheet) : Registry where
  nextId := registry.nextId + 1
  entries := registry.entries ++ [(registry.nextId, live)]
  ascending := by
    rw [List.map_append, List.pairwise_append]
    refine ⟨registry.ascending, List.pairwise_singleton _ _, ?_⟩
    intro id present last lastIs
    obtain rfl := List.mem_singleton.1 lastIs
    exact registry.below id present
  below := by
    intro id present
    rw [List.map_append, List.mem_append] at present
    rcases present with present | lastIs
    · exact Nat.lt_succ_of_lt (registry.below id present)
    · obtain rfl := List.mem_singleton.1 lastIs
      exact Nat.lt_succ_self _

/-- The registry without the sheet of a number. -/
def erase (registry : Registry) (id : Nat) : Registry where
  nextId := registry.nextId
  entries := registry.entries.filter (·.1 ≠ id)
  ascending := registry.ascending.sublist (List.filter_sublist.map Prod.fst)
  below := fun other present =>
    registry.below other ((List.filter_sublist.map Prod.fst).subset present)

/-- The registry without its sheets; numbers go on from where they were. -/
def clear (registry : Registry) : Registry where
  nextId := registry.nextId
  entries := []
  ascending := .nil
  below := by
    intro id present
    cases present

/-- The registry with other sheets under the same numbers. -/
def withEntries (registry : Registry) (entries : List (Nat × LiveSheet))
    (same : entries.map Prod.fst = registry.entries.map Prod.fst) : Registry where
  nextId := registry.nextId
  entries := entries
  ascending := same ▸ registry.ascending
  below := same ▸ registry.below

/-- The registry with another sheet under a number that is live. -/
def replace (registry : Registry) (id : Nat) (live : LiveSheet) : Registry :=
  registry.withEntries
    (registry.entries.map fun entry => if entry.1 = id then (id, live) else entry)
    (by
      rw [List.map_map]
      refine List.map_congr_left ?_
      intro entry _
      by_cases equal : entry.1 = id <;> simp [equal])

/-- Registers a live sheet and gives its number. -/
def register (live : LiveSheet) : RegistryM Nat := do
  let registry ← get
  let registry' := registry.add live
  set registry'
  Logged.report (.registered registry.nextId registry'.size)
  return registry.nextId

/-- Takes a live sheet out, if the number is live. -/
def unregister (id : Nat) : RegistryM (Option LiveSheet) := do
  let registry ← get
  match registry.get? id with
  | none => return none
  | some live =>
      let registry' := registry.erase id
      set registry'
      Logged.report (.unregistered id registry'.size)
      return some live

/-- Renders one sheet again, if the number is live. -/
def render (id : Nat) (overrides : Variables) :
    RegistryM (Option (Except RenderError Unit)) := do
  match (← get).get? id with
  | none => return none
  | some live =>
      let (outcome, live) ← live.rerender overrides
      modify (·.replace id live)
      return some outcome

/-- Renders sheets again one after another: the errors of those that fail, and
the sheets afterwards under their numbers. -/
def renderEntries (overrides : Variables) : (entries : List (Nat × LiveSheet)) →
    Logged (List (Nat × RenderError) ×
      { after : List (Nat × LiveSheet) // after.map Prod.fst = entries.map Prod.fst })
  | [] => return ([], ⟨[], rfl⟩)
  | (id, live) :: rest => do
      let (outcome, live) ← live.rerender overrides
      let (failures, ⟨after, same⟩) ← renderEntries overrides rest
      let after := ⟨(id, live) :: after, by rw [List.map_cons, List.map_cons, same]⟩
      match outcome with
      | .ok () => return (failures, after)
      | .error error => return ((id, error) :: failures, after)

/-- Renders every live sheet again and gives the errors of those that fail. -/
def renderAll (overrides : Variables) : RegistryM (List (Nat × RenderError)) := do
  let registry ← get
  let (failures, ⟨after, same⟩) ← renderEntries overrides registry.entries
  set (registry.withEntries after same)
  return failures

/-- Takes all live sheets out and disposes of them in order. -/
def disposeAll : RegistryM (List Sheet) := do
  let registry ← get
  set registry.clear
  registry.entries.mapM fun (_, live) => live.dispose

end Registry

end NestedStyles
