import NestedStyles.Proofs.Table.Lookup

/-!
# The laws of overriding

Variables under overriding form a monoid in which overriding twice by the same table is
overriding once. Equal tables have their entries in the same order, so these laws also say that
every name keeps the place of its first setting, however the overridings are bracketed. They
hold of all variables, since all are made by settings (`Variables.ofList_entries`).
-/

namespace NestedStyles

namespace Table

/-- Writing an entry again changes nothing. -/
theorem write_of_mem {entry : String × String} {entries : List (String × String)}
    (distinct : (entries.map Prod.fst).Nodup) (member : entry ∈ entries) :
    write entry.1 entry.2 entries = entries := by
  induction entries with
  | nil => cases member
  | cons first rest ih =>
      rw [List.map_cons, List.nodup_cons] at distinct
      rcases List.mem_cons.1 member with rfl | later
      · rw [write, if_pos rfl]
      · have different : first.1 ≠ entry.1 := by
          intro same
          exact distinct.1 (same ▸ List.mem_map_of_mem later)
        rw [write, if_neg different, ih distinct.2 later]

theorem insert_of_mem {table : Table} {entry : String × String} (member : entry ∈ table.entries) :
    table.insert entry.1 entry.2 = table :=
  Table.ext (write_of_mem table.distinct member)

theorem insertAll_of_subset {table : Table} {writes : List (String × String)}
    (subset : writes ⊆ table.entries) : table.insertAll writes = table := by
  induction writes with
  | nil => rfl
  | cons write writes ih =>
      obtain ⟨member, later⟩ := List.cons_subset.1 subset
      rw [insertAll_cons, insert_of_mem member, ih later]

end Table

namespace Variables

theorem setAll_append (bindings : Variables) (first second : List (String × String)) :
    bindings.setAll (first ++ second) = (bindings.setAll first).setAll second :=
  List.foldl_append

theorem override_empty (bindings : Variables) : bindings.override ∅ = bindings := rfl

theorem empty_override (bindings : Variables) : (∅ : Variables).override bindings = bindings :=
  ofList_entries bindings

theorem override_self (bindings : Variables) : bindings.override bindings = bindings := by
  apply ext_toTable
  rw [override, toTable_setAll, map_withSigil_entries]
  exact Table.insertAll_of_subset (List.Subset.refl _)

/-- Both sides set what the second table was set to and then what the third was set to. -/
theorem override_assoc (first second third : Variables) :
    (first.override second).override third = first.override (second.override third) := by
  have joined : second.override third = ofList (second.entries ++ third.entries) := by
    rw [ofList, setAll_append, ← ofList, ofList_entries, override]
  rw [joined, override_ofList, setAll_append, override, override]

/-- Overriding is associative, with the table without variables on either side as its unit, and
overriding again by the same table changes nothing. A name has its value in the overrides, and
its own where they have none. -/
theorem override_monoid_laws (first second third : Variables) :
    (first.override second).override third = first.override (second.override third) ∧
    first.override ∅ = first ∧
    (∅ : Variables).override first = first ∧
    (first.override second).override second = first.override second ∧
    ∀ name, (first.override second).get? name = (second.get? name).or (first.get? name) := by
  refine ⟨override_assoc first second third, override_empty first, empty_override first, ?_,
    get?_override first second⟩
  rw [override_assoc, override_self]

example :
    ((ofList [("a", "1"), ("$b", "2")]).override (ofList [("c", "3"), ("$a", "9")])).entries =
      [("$a", "9"), ("$b", "2"), ("$c", "3")] := by
  decide

end Variables

end NestedStyles
