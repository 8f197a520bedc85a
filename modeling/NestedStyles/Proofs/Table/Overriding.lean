import Mathlib.Data.List.Induction
import NestedStyles.Variables

/-!
# Writing tables on top of tables

Writing the entries of a table has the effect of the writes that made the table, so what
was overwritten on the way leaves no trace (`Table.insertAll_entries_ofList`). For variables
this says that overriding by a table is setting what the table was set to
(`Variables.override_ofList`).
-/

namespace NestedStyles

namespace Table

section Write

variable {name other value : String} {entries : List (String × String)}

/-- A new name is written behind all others. -/
theorem write_of_notMem (absent : name ∉ entries.map Prod.fst) :
    write name value entries = entries ++ [(name, value)] := by
  induction entries with
  | nil => rfl
  | cons entry rest ih =>
      rw [List.map_cons, List.mem_cons, not_or] at absent
      rw [write, if_neg (Ne.symm absent.1), ih absent.2, List.cons_append]

/-- A second value under a name replaces the first. -/
theorem write_write (name first second : String) (entries : List (String × String)) :
    write name second (write name first entries) = write name second entries := by
  induction entries with
  | nil => simp only [write, if_true]
  | cons entry rest ih =>
      by_cases here : entry.1 = name
      · simp only [write, here, if_true]
      · simp only [write, here, if_false, ih]

/-- Writes under two names commute if the table holds one of them. -/
theorem write_comm (different : name ≠ other) (present : name ∈ entries.map Prod.fst)
    (value value' : String) :
    write name value (write other value' entries) =
      write other value' (write name value entries) := by
  induction entries with
  | nil => cases present
  | cons entry rest ih =>
      by_cases here : entry.1 = name
      · simp only [write, here, different, if_true, if_false]
      · by_cases there : entry.1 = other
        · simp only [write, there, different.symm, if_true, if_false]
        · have later : name ∈ rest.map Prod.fst :=
            (List.mem_cons.1 present).resolve_left (Ne.symm here)
          simp only [write, here, there, if_false, ih later]

/-- What a table holds after a write was written or was there. -/
theorem mem_write {entry : String × String} (member : entry ∈ write name value entries) :
    entry = (name, value) ∨ entry ∈ entries := by
  induction entries with
  | nil => exact .inl (List.mem_singleton.1 member)
  | cons first rest ih =>
      rw [write] at member
      split at member
      · rcases List.mem_cons.1 member with same | later
        · exact .inl same
        · exact .inr (List.mem_cons_of_mem first later)
      · rcases List.mem_cons.1 member with rfl | later
        · exact .inr List.mem_cons_self
        · exact (ih later).imp_right (List.mem_cons_of_mem first)

end Write

theorem insert_insert (table : Table) (name first second : String) :
    (table.insert name first).insert name second = table.insert name second :=
  Table.ext (write_write name first second table.entries)

/-- Writes under two names may be swapped if the name that moves to the front has its place
already. -/
theorem insert_comm {table : Table} {name other : String} (different : name ≠ other)
    (present : name ∈ table.names) (value value' : String) :
    (table.insert other value').insert name value =
      (table.insert name value).insert other value' :=
  Table.ext (write_comm different present value value')

/-- The table after further writes. -/
def insertAll (table : Table) (writes : List (String × String)) : Table :=
  writes.foldl (fun table (name, value) => table.insert name value) table

theorem insertAll_cons (table : Table) (write : String × String)
    (writes : List (String × String)) :
    table.insertAll (write :: writes) = (table.insert write.1 write.2).insertAll writes := rfl

theorem insertAll_append (table : Table) (first second : List (String × String)) :
    table.insertAll (first ++ second) = (table.insertAll first).insertAll second :=
  List.foldl_append

theorem ofList_append_singleton (writes : List (String × String)) (last : String × String) :
    ofList (writes ++ [last]) = (ofList writes).insert last.1 last.2 :=
  insertAll_append ∅ writes [last]

/-- Entries come from the table or from the writes. -/
theorem mem_entries_insertAll {table : Table} {writes : List (String × String)}
    {entry : String × String} (member : entry ∈ (table.insertAll writes).entries) :
    entry ∈ table.entries ∨ entry ∈ writes := by
  induction writes generalizing table with
  | nil => exact .inl member
  | cons write writes ih =>
      rcases ih member with earlier | later
      · rcases mem_write earlier with rfl | present
        · exact .inr List.mem_cons_self
        · exact .inl present
      · exact .inr (List.mem_cons_of_mem write later)

/-- A table holds nothing but what was written. -/
theorem mem_entries_ofList {writes : List (String × String)} {entry : String × String}
    (member : entry ∈ (ofList writes).entries) : entry ∈ writes :=
  (@mem_entries_insertAll ∅ writes entry member).resolve_left List.not_mem_nil

/-- A value under a name that is there already may as well be written first, if nothing else
is written under the name. -/
theorem insert_insertAll {table : Table} {name : String} {writes : List (String × String)}
    (present : name ∈ table.names) (absent : name ∉ writes.map Prod.fst) (value : String) :
    (table.insertAll writes).insert name value = (table.insert name value).insertAll writes := by
  induction writes generalizing table with
  | nil => rfl
  | cons write writes ih =>
      rw [List.map_cons, List.mem_cons, not_or] at absent
      have still : name ∈ (table.insert write.1 write.2).names := mem_names_insert.2 (.inl present)
      rw [insertAll_cons, ih still absent.2, insert_comm absent.1 present, insertAll_cons]

/-- One more write to a table comes last when the table is written on top of another. -/
theorem insertAll_write (table : Table) (name value : String) {entries : List (String × String)}
    (distinct : (entries.map Prod.fst).Nodup) :
    table.insertAll (write name value entries) = (table.insertAll entries).insert name value := by
  induction entries generalizing table with
  | nil => rfl
  | cons entry rest ih =>
      rw [List.map_cons, List.nodup_cons] at distinct
      by_cases here : entry.1 = name
      · subst here
        have present : entry.1 ∈ (table.insert entry.1 entry.2).names :=
          mem_names_insert.2 (.inr rfl)
        rw [write, if_pos rfl, insertAll_cons, insertAll_cons,
          insert_insertAll present distinct.1, insert_insert]
      · rw [write, if_neg here, insertAll_cons, insertAll_cons, ih _ distinct.2]

/-- The entries of a table have the effect of the writes that made it. -/
theorem insertAll_entries_ofList (table : Table) (writes : List (String × String)) :
    table.insertAll (ofList writes).entries = table.insertAll writes := by
  induction writes using List.reverseRecOn with
  | nil => rfl
  | append_singleton writes last ih =>
      rw [ofList_append_singleton, insertAll_append, ← ih]
      exact insertAll_write table last.1 last.2 (ofList writes).distinct

/-- New names are written behind the others, in order. -/
theorem entries_insertAll {table : Table} {writes : List (String × String)}
    (distinct : (table.names ++ writes.map Prod.fst).Nodup) :
    (table.insertAll writes).entries = table.entries ++ writes := by
  induction writes generalizing table with
  | nil => exact (List.append_nil _).symm
  | cons write writes ih =>
      have absent : write.1 ∉ table.names := by
        intro present
        exact (List.nodup_append.1 distinct).2.2 _ present _ List.mem_cons_self rfl
      have entries : (table.insert write.1 write.2).entries = table.entries ++ [write] :=
        write_of_notMem absent
      have names : (table.insert write.1 write.2).names = table.names ++ [write.1] := by
        rw [names_insert, if_neg absent]
      rw [List.map_cons, List.append_cons, ← names] at distinct
      rw [insertAll_cons, ih distinct, entries, List.append_assoc, List.singleton_append]

theorem ofList_entries (table : Table) : ofList table.entries = table :=
  Table.ext (@entries_insertAll ∅ table.entries table.distinct)

end Table

namespace Variables

/-- Variables with the same table are equal. -/
theorem ext_toTable {first second : Variables} (same : first.toTable = second.toTable) :
    first = second :=
  Variables.ext (congrArg Table.entries same)

/-- Settings are writes under the signed names. -/
theorem toTable_setAll (bindings : Variables) (settings : List (String × String)) :
    (bindings.setAll settings).toTable =
      bindings.toTable.insertAll (settings.map (Prod.map withSigil id)) := by
  induction settings generalizing bindings with
  | nil => rfl
  | cons setting settings ih => exact ih (bindings.set setting.1 setting.2)

theorem toTable_ofList (settings : List (String × String)) :
    (ofList settings).toTable = .ofList (settings.map (Prod.map withSigil id)) :=
  toTable_setAll ∅ settings

/-- The names of variables have their sign. -/
theorem map_withSigil_entries (bindings : Variables) :
    bindings.entries.map (Prod.map withSigil id) = bindings.entries := by
  have each : ∀ entry ∈ bindings.entries, Prod.map withSigil id entry = id entry := by
    intro entry member
    have signed : IsReference entry.1 := bindings.signed entry.1 (List.mem_map_of_mem member)
    rw [Prod.map, withSigil, if_pos signed]
    rfl
  rw [List.map_congr_left each, List.map_id]

theorem ofList_entries (bindings : Variables) : ofList bindings.entries = bindings := by
  apply ext_toTable
  rw [ofList, toTable_setAll, map_withSigil_entries]
  exact bindings.toTable.ofList_entries

/-- Variables have the values that they were set to, under the signed names. -/
theorem exists_setting_of_mem_entries {settings : List (String × String)}
    {entry : String × String} (member : entry ∈ (ofList settings).entries) :
    ∃ setting ∈ settings, (withSigil setting.1, setting.2) = entry := by
  rw [ofList, toTable_setAll] at member
  exact List.mem_map.1 (Table.mem_entries_ofList member)

/-- Overriding by a table is setting what the table was set to. -/
theorem override_ofList (bindings : Variables) (settings : List (String × String)) :
    bindings.override (ofList settings) = bindings.setAll settings := by
  apply ext_toTable
  rw [override, toTable_setAll, map_withSigil_entries, toTable_setAll, toTable_ofList,
    Table.insertAll_entries_ofList]

end Variables

end NestedStyles
