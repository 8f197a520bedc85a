import Mathlib.Data.List.Nodup
import Mathlib.Data.List.Perm.Basic
import NestedStyles.Proofs.Table.Overriding

/-!
# Looking names up

With distinct names, an entry is found exactly if it is there, so the order of the entries
does not matter (`Table.get?_eq_of_perm`). A name in overridden variables has its value in
the overrides, if there is one, and otherwise its own (`Variables.get?_override`).
-/

namespace NestedStyles

/-- With distinct keys, a look-up finds exactly the entries of the list. -/
theorem lookup_eq_some_iff_mem {α β : Type} [DecidableEq α] {entries : List (α × β)}
    (distinct : (entries.map Prod.fst).Nodup) {key : α} {value : β} :
    entries.lookup key = some value ↔ (key, value) ∈ entries := by
  induction entries with
  | nil => simp
  | cons entry rest ih =>
      rw [List.map_cons, List.nodup_cons] at distinct
      obtain ⟨first, found⟩ := entry
      rw [List.lookup_cons, List.mem_cons, Prod.mk.injEq]
      by_cases same : key = first
      · subst same
        have absent : (key, value) ∉ rest := fun member =>
          distinct.1 (List.mem_map.2 ⟨_, member, rfl⟩)
        simp [absent, eq_comm]
      · rw [beq_eq_false_iff_ne.2 same]
        simp [same, ih distinct.2]

theorem lookup_eq_none_iff_notMem {α β : Type} [DecidableEq α] {entries : List (α × β)} {key : α} :
    entries.lookup key = none ↔ key ∉ entries.map Prod.fst := by
  rw [List.lookup_eq_none_iff, List.mem_map]
  constructor
  · rintro absent ⟨entry, present, rfl⟩
    exact bne_iff_ne.1 (absent entry present) rfl
  · intro absent entry present
    rw [bne_iff_ne]
    rintro rfl
    exact absent ⟨entry, present, rfl⟩

namespace Table

/-- Since names are distinct, a look-up finds exactly the entries. -/
theorem get?_eq_some_iff {table : Table} {name value : String} :
    table.get? name = some value ↔ (name, value) ∈ table.entries :=
  lookup_eq_some_iff_mem table.distinct

/-- Nothing is found exactly under the names that are not listed. -/
theorem get?_eq_none_iff {table : Table} {name : String} :
    table.get? name = none ↔ name ∉ table.names :=
  lookup_eq_none_iff_notMem

/-- A look-up does not depend on the order of the entries. -/
theorem get?_eq_of_perm {first second : Table} (permuted : first.entries.Perm second.entries)
    (name : String) : first.get? name = second.get? name := by
  apply Option.ext
  intro value
  rw [get?_eq_some_iff, get?_eq_some_iff, permuted.mem_iff]

/-- A look-up behind writes under distinct names finds the write, and the former value under
other names. -/
theorem get?_insertAll (table : Table) {writes : List (String × String)}
    (distinct : (writes.map Prod.fst).Nodup) (name : String) :
    (table.insertAll writes).get? name = (writes.lookup name).or (table.get? name) := by
  induction writes generalizing table with
  | nil => rfl
  | cons write writes ih =>
      rw [List.map_cons, List.nodup_cons] at distinct
      rw [insertAll_cons, ih _ distinct.2, get?_insert, List.lookup_cons]
      by_cases same : name = write.1
      · have absent : writes.lookup name = none :=
          lookup_eq_none_iff_notMem.2 (same ▸ distinct.1)
        rw [if_pos same, absent, beq_iff_eq.2 same]
        rfl
      · rw [if_neg same, beq_eq_false_iff_ne.2 same]

end Table

namespace Variables

/-- The value under a name is that of the overrides, if they have one. -/
theorem get?_override (bindings overrides : Variables) (name : String) :
    (bindings.override overrides).get? name =
      (overrides.get? name).or (bindings.get? name) := by
  rw [override, toTable_setAll, map_withSigil_entries]
  exact bindings.toTable.get?_insertAll overrides.distinct name

end Variables

end NestedStyles
