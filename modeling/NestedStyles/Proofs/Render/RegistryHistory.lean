import NestedStyles.Proofs.Render.RegistryRun
import NestedStyles.Proofs.Table.Lookup

/-!
# The history of a registry

What a registry holds after a run of operations, said without the registry: each
registration has the number of registrations before it, is live unless a later operation
takes its sheet out, and its sheet has gone through the later renderings that reach it.
One equation says what an operation does to the entries (`Registry.entries_after`), and by
induction a run of operations leaves exactly the live registrations of its history
(`Registry.entries_afterAll`).
-/

namespace NestedStyles

namespace Registry

namespace Operation

/-- Operations that take the sheet of a number out. -/
def Removes (id : Nat) : Operation → Prop
  | unregister other => other = id
  | disposeAll => True
  | _ => False

instance (id : Nat) : (operation : Operation) → Decidable (operation.Removes id)
  | register _ => isFalse not_false
  | unregister other => inferInstanceAs (Decidable (other = id))
  | render .. => isFalse not_false
  | renderAll _ => isFalse not_false
  | disposeAll => isTrue trivial

/-- The overrides with which an operation renders the sheet of a number again. -/
def overrides? (id : Nat) : Operation → Option Variables
  | render other overrides => if other = id then some overrides else none
  | renderAll overrides => some overrides
  | _ => none

/-- The sheet that an operation registers. -/
def registered? : Operation → Option LiveSheet
  | register live => some live
  | _ => none

/-- The number of the one sheet that an operation is about. -/
def addressee? : Operation → Option Nat
  | unregister id => some id
  | render id _ => some id
  | _ => none

/-- An entry that an operation leaves in a registry, as it is afterwards. -/
def advance (operation : Operation) (entry : Nat × LiveSheet) : Nat × LiveSheet :=
  (entry.1, match operation.overrides? entry.1 with
    | some overrides => (entry.2.rerender overrides).value.2
    | none => entry.2)

end Operation

/-- Since numbers are distinct, a look-up finds exactly the entries. -/
theorem get?_eq_some_iff {registry : Registry} {id : Nat} {live : LiveSheet} :
    registry.get? id = some live ↔ (id, live) ∈ registry.entries :=
  lookup_eq_some_iff_mem (registry.ascending.imp Nat.ne_of_lt)

/-- A look-up finds nothing exactly if no entry has the number. -/
theorem get?_eq_none_iff {registry : Registry} {id : Nat} :
    registry.get? id = none ↔ ∀ entry ∈ registry.entries, entry.1 ≠ id := by
  rw [get?, lookup_eq_none_iff_notMem]
  simp only [List.mem_map, not_exists, not_and, ne_eq]

section Steps

variable {operation : Operation} {entries : List (Nat × LiveSheet)}

theorem map_advance_eq_self (passed : ∀ entry ∈ entries, operation.overrides? entry.1 = none) :
    entries.map operation.advance = entries := by
  have same : ∀ entry ∈ entries, operation.advance entry = id entry := by
    intro entry member
    rw [Operation.advance, passed entry member]
    rfl
  rw [List.map_congr_left same, List.map_id]

theorem filter_removes_eq_self (kept : ∀ entry ∈ entries, ¬ operation.Removes entry.1) :
    entries.filter (¬ operation.Removes ·.1) = entries :=
  List.filter_eq_self.2 fun entry member => decide_eq_true (kept entry member)

variable (registry : Registry)

/-- Taking a sheet out leaves the entries of all other numbers, also if the number is
not live. -/
theorem entries_after_unregister (id : Nat) :
    (registry.after (.unregister id)).entries =
      registry.entries.filter (¬ (Operation.unregister id).Removes ·.1) := by
  rw [after, outcome_unregister]
  cases found : registry.get? id with
  | some live =>
      refine List.filter_congr fun entry _ => ?_
      exact decide_eq_decide.2 ne_comm
  | none =>
      symm
      apply filter_removes_eq_self
      intro entry member removed
      exact get?_eq_none_iff.1 found entry member removed.symm

/-- Rendering a sheet advances the entry of its number, and none if the number is not live. -/
theorem entries_after_render (id : Nat) (overrides : Variables) :
    (registry.after (.render id overrides)).entries =
      registry.entries.map (Operation.render id overrides).advance := by
  have elsewhere {other : Nat} (different : other ≠ id) :
      (Operation.render id overrides).overrides? other = none := if_neg (Ne.symm different)
  rw [after, outcome_render]
  cases found : registry.get? id with
  | some live =>
      refine List.map_congr_left fun entry member => ?_
      by_cases here : entry.1 = id
      · have stored : registry.get? entry.1 = some entry.2 := get?_eq_some_iff.2 member
        rw [here, found] at stored
        rw [if_pos here, Operation.advance, Operation.overrides?, if_pos here.symm, here,
          Option.some.inj stored]
      · rw [if_neg here, Operation.advance, elsewhere here]
  | none =>
      symm
      apply map_advance_eq_self
      intro entry member
      exact elsewhere (get?_eq_none_iff.1 found entry member)

/-- What an operation does to the entries: it takes some out, renders some again, and may
register one behind the others. -/
theorem entries_after (operation : Operation) :
    (registry.after operation).entries =
      (registry.entries.filter (¬ operation.Removes ·.1)).map operation.advance ++
        operation.registered?.toList.map (registry.nextId, ·) := by
  cases operation with
  | register live =>
      have kept : ∀ entry ∈ registry.entries, ¬ (Operation.register live).Removes entry.1 :=
        fun _ _ => not_false
      rw [filter_removes_eq_self kept, map_advance_eq_self fun _ _ => rfl]
      rfl
  | unregister id =>
      rw [entries_after_unregister, map_advance_eq_self fun _ _ => rfl]
      exact (List.append_nil _).symm
  | render id overrides =>
      have kept : ∀ entry ∈ registry.entries, ¬ (Operation.render id overrides).Removes entry.1 :=
        fun _ _ => not_false
      rw [entries_after_render, filter_removes_eq_self kept]
      exact (List.append_nil _).symm
  | renderAll overrides =>
      have kept : ∀ entry ∈ registry.entries, ¬ (Operation.renderAll overrides).Removes entry.1 :=
        fun _ _ => not_false
      rw [after, (outcome_renderAll registry overrides).2, filter_removes_eq_self kept]
      exact (List.append_nil _).symm
  | disposeAll =>
      have gone : registry.entries.filter (¬ Operation.disposeAll.Removes ·.1) = [] :=
        List.filter_eq_nil_iff.2 fun _ _ => by simp [Operation.Removes]
      rw [after, outcome_disposeAll, gone]
      rfl

/-- The next number goes up by one with a registration, and with nothing else. -/
theorem nextId_after (operation : Operation) :
    (registry.after operation).nextId =
      registry.nextId + operation.registered?.toList.length := by
  cases operation with
  | register live => rfl
  | unregister id =>
      rw [after, outcome_unregister]
      cases registry.get? id <;> rfl
  | render id overrides =>
      rw [after, outcome_render]
      cases registry.get? id <;> rfl
  | renderAll overrides => rfl
  | disposeAll =>
      rw [after, outcome_disposeAll]
      rfl

end Steps

/-- A registration in a history. -/
structure Registration where
  /-- How many registrations there were before. -/
  id : Nat
  live : LiveSheet
  /-- What happened later. -/
  later : List Operation

namespace Registration

/-- Nothing has taken the sheet out since. -/
def IsLive (registration : Registration) : Prop :=
  ∀ operation ∈ registration.later, ¬ operation.Removes registration.id

instance (registration : Registration) : Decidable registration.IsLive :=
  inferInstanceAs (Decidable (∀ operation ∈ _, _))

/-- The sheet after the renderings that have reached it since, in order. -/
def current (registration : Registration) : LiveSheet :=
  registration.live.rerenderAll (registration.later.filterMap (·.overrides? registration.id))

/-- What a registration leaves in the registry, if it is live. -/
def entry? (registration : Registration) : Option (Nat × LiveSheet) :=
  if registration.IsLive then some (registration.id, registration.current) else none

end Registration

/-- The registrations of a history, in order, numbered from the given number on. -/
def registrationsFrom (next : Nat) : List Operation → List Registration
  | [] => []
  | operation :: later =>
      match operation.registered? with
      | some live => ⟨next, live, later⟩ :: registrationsFrom (next + 1) later
      | none => registrationsFrom next later

/-- The registry after operations one after another. -/
def afterAll (registry : Registry) (operations : List Operation) : Registry :=
  operations.foldl after registry

/-- The number that an operation gives, if it registers a sheet. -/
def given? (registry : Registry) : Operation → Option Nat
  | .register live => some ((register live).outcome registry).1
  | _ => none

/-- The numbers that operations give, one after another. -/
def givenAll (registry : Registry) : List Operation → List Nat
  | [] => []
  | operation :: later =>
      (registry.given? operation).toList ++ (registry.after operation).givenAll later

section Runs

/-- A first operation takes the sheet out or advances it. -/
theorem entry?_cons (entry : Nat × LiveSheet) (operation : Operation) (later : List Operation) :
    Registration.entry? ⟨entry.1, entry.2, operation :: later⟩ =
      if ¬ operation.Removes entry.1 then
        Registration.entry? ⟨(operation.advance entry).1, (operation.advance entry).2, later⟩
      else none := by
  have current : Registration.current ⟨entry.1, entry.2, operation :: later⟩ =
      Registration.current ⟨entry.1, (operation.advance entry).2, later⟩ := by
    unfold Registration.current Operation.advance
    cases reached : operation.overrides? entry.1 with
    | none => rw [List.filterMap_cons_none reached]
    | some overrides =>
        rw [List.filterMap_cons_some reached]
        rfl
  have isLive : Registration.IsLive ⟨entry.1, entry.2, operation :: later⟩ ↔
      ¬ operation.Removes entry.1 ∧
        Registration.IsLive ⟨entry.1, (operation.advance entry).2, later⟩ :=
    List.forall_mem_cons
  unfold Registration.entry?
  by_cases removed : operation.Removes entry.1
  · rw [if_neg (not_not.2 removed), if_neg fun live => (isLive.1 live).1 removed]
  · rw [if_pos removed, current]
    exact if_congr (isLive.trans (and_iff_right removed)) rfl rfl

theorem entry?_nil (entry : Nat × LiveSheet) :
    Registration.entry? ⟨entry.1, entry.2, []⟩ = some entry :=
  if_pos (List.forall_mem_nil _)

/-- The numbers that registrations leave are those of the live ones. -/
theorem mem_map_fst_filterMap_entry? {registrations : List Registration} {id : Nat} :
    id ∈ (registrations.filterMap Registration.entry?).map Prod.fst ↔
      ∃ registration ∈ registrations, registration.id = id ∧ registration.IsLive := by
  rw [List.mem_map]
  constructor
  · rintro ⟨entry, member, rfl⟩
    obtain ⟨registration, present, left⟩ := List.mem_filterMap.1 member
    obtain ⟨isLive, same⟩ := Option.ite_none_right_eq_some.1 left
    exact ⟨registration, present, congrArg Prod.fst (Option.some.inj same), isLive⟩
  · rintro ⟨registration, present, rfl, isLive⟩
    exact ⟨_, List.mem_filterMap.2 ⟨registration, present, if_pos isLive⟩, rfl⟩

/-- The first operation adds its registration, and later ones are numbered from the number that
it leaves. -/
theorem registrationsFrom_cons (registry : Registry) (operation : Operation)
    (later : List Operation) :
    registrationsFrom registry.nextId (operation :: later) =
      operation.registered?.toList.map (⟨registry.nextId, ·, later⟩) ++
        registrationsFrom (registry.after operation).nextId later := by
  rw [nextId_after, registrationsFrom]
  cases operation.registered? <;> rfl

/-- A run of operations leaves what is live of the entries and of its registrations. -/
theorem entries_afterAll (registry : Registry) (operations : List Operation) :
    (registry.afterAll operations).entries =
      registry.entries.filterMap
          (fun entry => Registration.entry? ⟨entry.1, entry.2, operations⟩) ++
        (registrationsFrom registry.nextId operations).filterMap Registration.entry? := by
  induction operations generalizing registry with
  | nil =>
      simp only [entry?_nil, List.filterMap_some]
      exact (List.append_nil _).symm
  | cons operation later ih =>
      change ((registry.after operation).afterAll later).entries = _
      rw [ih, entries_after, registrationsFrom_cons, List.filterMap_append, List.filterMap_append,
        List.append_assoc, List.filterMap_map, List.filterMap_filter]
      simp only [entry?_cons, decide_eq_true_eq, List.filterMap_map]
      rfl

/-- The numbers that operations give are those of their registrations. -/
theorem givenAll_eq (registry : Registry) (operations : List Operation) :
    registry.givenAll operations =
      (registrationsFrom registry.nextId operations).map Registration.id := by
  induction operations generalizing registry with
  | nil => rfl
  | cons operation later ih =>
      rw [givenAll, ih, registrationsFrom_cons, List.map_append]
      cases operation <;> rfl

/-- Registrations are numbered one after another. -/
theorem map_id_registrationsFrom (next : Nat) (operations : List Operation) :
    (registrationsFrom next operations).map Registration.id =
      List.range' next (registrationsFrom next operations).length := by
  induction operations generalizing next with
  | nil => rfl
  | cons operation later ih =>
      rw [registrationsFrom]
      cases operation.registered? with
      | none => exact ih next
      | some live => exact congrArg (next :: ·) (ih (next + 1))

end Runs

section Frames

variable {registry : Registry} {operation : Operation} {id : Nat}

/-- An operation that neither takes a sheet out nor renders it again nor registers it leaves
the sheet as it is. -/
theorem get?_after_of_passed (kept : ¬ operation.Removes id)
    (passed : operation.overrides? id = none) (old : registry.given? operation ≠ some id) :
    (registry.after operation).get? id = registry.get? id := by
  have same (live : LiveSheet) : operation.advance (id, live) = (id, live) := by
    rw [Operation.advance, passed]
  apply Option.ext
  intro live
  rw [get?_eq_some_iff, get?_eq_some_iff, entries_after, List.mem_append]
  constructor
  · rintro (member | registered)
    · obtain ⟨⟨other, earlier⟩, present, advanced⟩ := List.mem_map.1 member
      obtain rfl : other = id := congrArg Prod.fst advanced
      rw [same] at advanced
      rw [← advanced]
      exact (List.mem_filter.1 present).1
    · cases operation with
      | register fresh =>
          obtain ⟨rfl, _⟩ := Prod.mk.inj (List.mem_singleton.1 registered)
          exact absurd rfl old
      | unregister other | render other overrides | renderAll overrides | disposeAll =>
          cases registered
  · intro member
    refine .inl (List.mem_map.2 ⟨(id, live), List.mem_filter.2 ⟨member, ?_⟩, same live⟩)
    exact decide_eq_true kept

/-- An operation about one number leaves the sheets of all others as they are. -/
theorem get?_after_of_ne
    (about : operation.addressee? = some id ∨ registry.given? operation = some id) {other : Nat}
    (different : other ≠ id) : (registry.after operation).get? other = registry.get? other := by
  cases operation with
  | register live =>
      have kept : ¬ (Operation.register live).Removes other := not_false
      have given : registry.given? (.register live) = some id := about.resolve_left nofun
      apply get?_after_of_passed kept rfl
      intro same
      exact different (Option.some.inj (same.symm.trans given))
  | unregister removed =>
      obtain rfl : removed = id := Option.some.inj (about.resolve_right nofun)
      exact get?_after_of_passed (Ne.symm different) rfl nofun
  | render rendered overrides =>
      obtain rfl : rendered = id := Option.some.inj (about.resolve_right nofun)
      exact get?_after_of_passed not_false (if_neg (Ne.symm different)) nofun
  | renderAll overrides | disposeAll => rcases about with about | about <;> cases about

/-- An operation on a number that is not live changes nothing. -/
theorem after_eq_self (addressed : operation.addressee? = some id)
    (absent : registry.get? id = none) : registry.after operation = registry := by
  cases operation with
  | unregister other =>
      obtain rfl := Option.some.inj addressed
      rw [after, outcome_unregister, absent]
  | render other overrides =>
      obtain rfl := Option.some.inj addressed
      rw [after, outcome_render, absent]
  | register live => cases addressed
  | renderAll overrides => cases addressed
  | disposeAll => cases addressed

end Frames

end Registry

/-- **A registry is the history of its operations.** Registering gives the numbers from zero
on, one after another. The registry lists what was registered and not taken out since, in
order of registration, each sheet after exactly the renderings that reached it since. An
operation on one sheet leaves all others as they are, and an operation on a number that is
not live changes nothing. -/
theorem registry_holds_history :
    (∀ operations : List Registry.Operation,
      let registry := (∅ : Registry).afterAll operations
      let registrations := Registry.registrationsFrom 0 operations
      (∅ : Registry).givenAll operations = registrations.map Registry.Registration.id ∧
      registrations.map Registry.Registration.id = List.range registrations.length ∧
      registry.entries = registrations.filterMap Registry.Registration.entry? ∧
      (∀ id, id ∈ registry.ids ↔
        ∃ registration ∈ registrations, registration.id = id ∧ registration.IsLive) ∧
      ∀ registration ∈ registrations, registration.IsLive →
        registry.get? registration.id = some registration.current) ∧
    ∀ (registry : Registry) (operation : Registry.Operation) (id : Nat),
      (operation.addressee? = some id ∨ registry.given? operation = some id →
        ∀ other, other ≠ id → (registry.after operation).get? other = registry.get? other) ∧
      (operation.addressee? = some id → registry.get? id = none →
        registry.after operation = registry) := by
  refine ⟨fun operations => ?_, fun registry operation id => ⟨?_, Registry.after_eq_self⟩⟩
  · have entries := Registry.entries_afterAll ∅ operations
    have numbers := Registry.map_id_registrationsFrom 0 operations
    rw [← List.range_eq_range'] at numbers
    refine ⟨Registry.givenAll_eq ∅ operations, numbers, entries, fun id => ?_, ?_⟩
    · rw [Registry.ids, entries]
      exact Registry.mem_map_fst_filterMap_entry?
    · intro registration member isLive
      apply Registry.get?_eq_some_iff.2
      rw [entries]
      exact List.mem_filterMap.2 ⟨registration, member, if_pos isLive⟩
  · intro about other different
    exact Registry.get?_after_of_ne about different

/-- Three sheets, of which the first is taken out and the last is registered after that. -/
def threeSheets (live : LiveSheet) : List Registry.Operation :=
  [.register live, .register live, .unregister 0, .renderAll (.ofList [("$color", "blue")]),
    .register live, .unregister 7, .render 1 (.ofList [("$gap", "4px")])]

/-- Of three sheets one is taken out, one is rendered twice, and one is left alone. -/
theorem registry_holds_history_threeSheets :
    ∃ live, (LiveSheet.start LiveSheet.coloredBox ∅).run.value = .ok live ∧
      (∅ : Registry).givenAll (threeSheets live) = [0, 1, 2] ∧
      ((∅ : Registry).afterAll (threeSheets live)).entries =
        [(1, live.rerenderAll [.ofList [("$color", "blue")], .ofList [("$gap", "4px")]]),
          (2, live)] ∧
      ((∅ : Registry).afterAll (threeSheets live)).get? 2 = some live ∧
      (((∅ : Registry).afterAll (threeSheets live)).after (.unregister 1)).get? 2 =
        ((∅ : Registry).afterAll (threeSheets live)).get? 2 := by
  have started : (LiveSheet.start LiveSheet.coloredBox ∅).run.value = .ok _ :=
    LiveSheet.start_eq_ok_iff.2 ⟨LiveSheet.cover_coloredBox, rfl⟩
  obtain ⟨histories, frames⟩ := registry_holds_history
  obtain ⟨given, _, entries, _, stored⟩ := histories (threeSheets _)
  refine ⟨_, started, given, entries, ?_, (frames _ (.unregister 1) 1).1 (.inl rfl) 2 (by decide)⟩
  exact stored ⟨2, _, _⟩ (.tail _ (.tail _ (.head _))) (by decide)

end NestedStyles
