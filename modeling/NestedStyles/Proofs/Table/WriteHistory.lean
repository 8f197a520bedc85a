import Mathlib.Data.List.Basic
import NestedStyles.Proofs.Table.Lookup

/-!
# What tables keep of their writes

The first write under a name gives the name its place, and the last one its value. Both are
said of the sequence of writes alone (`WrittenBefore`, `LastWritten`), without running it. A
table records the writes if it has just the written names, in these places and with these
values (`Table.Records`). The table that the writes leave does (`Table.records_ofList`), and
no other one (`Table.Records.unique`). Variables record their settings in the same way, under
the signed names.
-/

namespace NestedStyles

variable {writes : List (String × String)} {name other value : String}

/-- The value is that of the last write under the name. -/
def LastWritten (writes : List (String × String)) (name value : String) : Prop :=
  ∃ earlier later, writes = earlier ++ (name, value) :: later ∧ name ∉ later.map Prod.fst

/-- The first write under a name comes before the first write under the other. -/
def WrittenBefore (writes : List (String × String)) (name other : String) : Prop :=
  (writes.map Prod.fst).idxOf name < (writes.map Prod.fst).idxOf other

theorem not_lastWritten_nil : ¬ LastWritten [] name value := by
  rintro ⟨earlier, later, split, -⟩
  exact List.append_ne_nil_of_right_ne_nil earlier (List.cons_ne_nil _ later) split.symm

/-- One more write is the last one under its own name, and under no other. -/
theorem lastWritten_append_singleton {write : String × String} :
    LastWritten (writes ++ [write]) name value ↔
      if name = write.1 then write.2 = value else LastWritten writes name value := by
  constructor
  · rintro ⟨earlier, later, split, absent⟩
    -- The split singles out the additional write exactly if nothing follows behind it.
    rcases later.eq_nil_or_concat with rfl | ⟨between, last, rfl⟩
    · obtain ⟨-, same⟩ := List.append_inj' split rfl
      obtain rfl := List.singleton_inj.1 same
      exact (if_pos rfl).mpr rfl
    · rw [List.concat_eq_append] at split absent
      rw [← List.cons_append, ← List.append_assoc] at split
      obtain ⟨rfl, same⟩ := List.append_inj' split rfl
      obtain rfl := List.singleton_inj.1 same
      rw [List.map_append, List.mem_append, not_or, List.map_singleton,
        List.mem_singleton] at absent
      exact (if_neg absent.2).mpr ⟨earlier, between, rfl, absent.1⟩
  · by_cases same : name = write.1
    · rw [if_pos same]
      rintro rfl
      exact ⟨writes, [], by rw [same], List.not_mem_nil⟩
    · rw [if_neg same]
      rintro ⟨earlier, later, rfl, absent⟩
      refine ⟨earlier, later ++ [write], List.append_assoc .., ?_⟩
      rw [List.map_append, List.mem_append, List.map_singleton, List.mem_singleton]
      exact not_or.2 ⟨absent, same⟩

/-- Further writes do not change the order of the names that were written. -/
theorem WrittenBefore.append (before : WrittenBefore writes name other)
    (written : other ∈ writes.map Prod.fst) (more : List (String × String)) :
    WrittenBefore (writes ++ more) name other := by
  have earlier : name ∈ writes.map Prod.fst :=
    List.idxOf_lt_length_iff.1 (Nat.lt_trans before (List.idxOf_lt_length_iff.2 written))
  rw [WrittenBefore, List.map_append, List.idxOf_append_of_mem earlier,
    List.idxOf_append_of_mem written]
  exact before

/-- A name that was not written comes behind those that were. -/
theorem writtenBefore_append_singleton {write : String × String}
    (written : name ∈ writes.map Prod.fst) (fresh : write.1 ∉ writes.map Prod.fst) :
    WrittenBefore (writes ++ [write]) name write.1 := by
  rw [WrittenBefore, List.map_append, List.idxOf_append_of_mem written,
    List.idxOf_append_of_notMem fresh]
  exact Nat.lt_add_right _ (List.idxOf_lt_length_iff.2 written)

namespace Table

/-- A table that has the place of each name from its first write and the value from its last. -/
structure Records (table : Table) (writes : List (String × String)) : Prop where
  /-- The names are those that were written. -/
  listed : ∀ name, name ∈ table.names ↔ name ∈ writes.map Prod.fst
  /-- Each name stands once, in the order of the first writes. -/
  ordered : table.names.Pairwise (WrittenBefore writes)
  /-- The value beside a name is the last one written. -/
  valued : ∀ name value, (name, value) ∈ table.entries ↔ LastWritten writes name value
  /-- The value found under a name is the last one written. -/
  found : ∀ name value, table.get? name = some value ↔ LastWritten writes name value
  /-- Nothing is found exactly under the names that were not written. -/
  missing : ∀ name, table.get? name = none ↔ name ∉ writes.map Prod.fst

theorem mem_names_ofList : name ∈ (ofList writes).names ↔ name ∈ writes.map Prod.fst := by
  induction writes using List.reverseRecOn with
  | nil => exact Iff.rfl
  | append_singleton writes last ih =>
      rw [ofList_append_singleton, mem_names_insert, ih, List.map_append, List.mem_append,
        List.map_singleton, List.mem_singleton]

/-- What is found under a name is the last value that was written there. -/
theorem get?_ofList_eq_some_iff :
    (ofList writes).get? name = some value ↔ LastWritten writes name value := by
  induction writes using List.reverseRecOn with
  | nil => exact iff_of_false (Option.some_ne_none value).symm not_lastWritten_nil
  | append_singleton writes last ih =>
      rw [ofList_append_singleton, get?_insert, lastWritten_append_singleton]
      split
      · exact Option.some_inj
      · exact ih

/-- A write leaves the names as they are or adds the one that was never written. -/
theorem pairwise_writtenBefore_names_ofList (writes : List (String × String)) :
    (ofList writes).names.Pairwise (WrittenBefore writes) := by
  induction writes using List.reverseRecOn with
  | nil => exact List.Pairwise.nil
  | append_singleton writes last ih =>
      have kept : (ofList writes).names.Pairwise (WrittenBefore (writes ++ [last])) := by
        refine ih.imp_of_mem fun _ present before => ?_
        exact before.append (mem_names_ofList.1 present) [last]
      rw [ofList_append_singleton, names_insert]
      split
      · exact kept
      · next fresh =>
          refine List.pairwise_append.2 ⟨kept, List.pairwise_singleton _ _, ?_⟩
          intro name present other isLast
          obtain rfl := List.mem_singleton.1 isLast
          rw [mem_names_ofList] at present fresh
          exact writtenBefore_append_singleton present fresh

/-- A table that is made by writes records them. -/
theorem records_ofList (writes : List (String × String)) : (ofList writes).Records writes where
  listed _ := mem_names_ofList
  ordered := pairwise_writtenBefore_names_ofList writes
  valued _ _ := get?_eq_some_iff.symm.trans get?_ofList_eq_some_iff
  found _ _ := get?_ofList_eq_some_iff
  missing _ := get?_eq_none_iff.trans mem_names_ofList.not

/-- Two tables that record the same writes have the same entries, in the same order. -/
theorem Records.unique {first second : Table} (one : first.Records writes)
    (two : second.Records writes) : first = second := by
  have permuted : first.entries.Perm second.entries := by
    rw [List.perm_ext_iff_of_nodup (.of_map Prod.fst first.distinct)
      (.of_map Prod.fst second.distinct)]
    rintro ⟨name, value⟩
    exact (one.valued name value).trans (two.valued name value).symm
  refine Table.ext (permuted.eq_of_pairwise ?_ (List.pairwise_map.1 one.ordered)
    (List.pairwise_map.1 two.ordered))
  intro entry entry' _ _ before after
  exact absurd before (Nat.lt_asymm after)

/-- Writes are recorded by one table only, the one they make. -/
theorem eq_ofList_iff_records {table : Table} : table = ofList writes ↔ table.Records writes := by
  constructor
  · rintro rfl
    exact records_ofList writes
  · exact fun records => records.unique (records_ofList writes)

end Table

/-- Settings are recorded by one set of variables only, the one they make, with the sign on
every name. -/
theorem Variables.eq_ofList_iff_records {bindings : Variables} :
    bindings = ofList writes ↔ bindings.Records (writes.map (Prod.map withSigil id)) := by
  rw [← Table.eq_ofList_iff_records, ← toTable_ofList]
  exact ⟨congrArg toTable, ext_toTable⟩

/-- The last write wins, in the place of the first: what a sequence of writes leaves, as the
declarations of a block or as variables, is the one table that records the writes. The names of
declarations are recorded as they are given, and those of variables with their sign. -/
theorem last_write_wins_in_first_place (writes : List (String × String)) :
    (∀ declarations : Declarations,
      declarations = Table.ofList writes ↔ declarations.Records writes) ∧
    (∀ bindings : Variables,
      bindings = Variables.ofList writes ↔
        bindings.Records (writes.map (Prod.map withSigil id))) ∧
    ∀ name ∈ (Variables.ofList writes).names, IsReference name :=
  ⟨fun _ => Table.eq_ofList_iff_records, fun _ => Variables.eq_ofList_iff_records,
    (Variables.ofList writes).signed⟩

/-- Two spellings of a variable write the same place. -/
theorem last_write_wins_in_first_place_twoSpellings :
    (Variables.ofList [("x", "1"), ("$y", "2"), ("$x", "3")]).entries =
      [("$x", "3"), ("$y", "2")] ∧
    (Variables.ofList [("x", "1"), ("$y", "2"), ("$x", "3")]).Records
      [("$x", "1"), ("$y", "2"), ("$x", "3")] ∧
    "$x" ∈ (Variables.ofList [("x", "1"), ("$y", "2"), ("$x", "3")]).names ∧
    IsReference "$x" :=
  have laws := last_write_wins_in_first_place [("x", "1"), ("$y", "2"), ("$x", "3")]
  ⟨by decide, (laws.2.1 _).1 rfl, by decide, laws.2.2 "$x" (by decide)⟩

end NestedStyles
