/-!
# Ordered tables

A table of texts under distinct names, in the order in which the names were
first written. Writing a name again replaces its value and keeps its place.
-/

namespace NestedStyles

/-- Named texts in order of their first writing. -/
@[ext]
structure Table where
  entries : List (String × String)
  distinct : (entries.map Prod.fst).Nodup
deriving DecidableEq

namespace Table

/-- The entries after a value is written under a name. -/
def write (name value : String) : List (String × String) → List (String × String)
  | [] => [(name, value)]
  | entry :: rest =>
      if entry.1 = name then (name, value) :: rest else entry :: write name value rest

/-- Writing a name adds it at the end, unless it is there. -/
theorem map_fst_write (name value : String) (entries : List (String × String)) :
    (write name value entries).map Prod.fst =
      if name ∈ entries.map Prod.fst then entries.map Prod.fst
      else entries.map Prod.fst ++ [name] := by
  induction entries with
  | nil => rfl
  | cons entry rest ih =>
      by_cases same : entry.1 = name
      · simp [write, same]
      · have different : name ≠ entry.1 := fun equal => same equal.symm
        simp only [write, same, if_false, List.map_cons, ih, List.mem_cons, different, false_or]
        split <;> rfl

/-- A write keeps names distinct. -/
theorem nodup_map_fst_write (name value : String) {entries : List (String × String)}
    (distinct : (entries.map Prod.fst).Nodup) :
    ((write name value entries).map Prod.fst).Nodup := by
  rw [map_fst_write]
  split
  · exact distinct
  · next absent =>
      rw [List.nodup_append]
      refine ⟨distinct, by simp, ?_⟩
      intro other present last lastIs
      obtain rfl := List.mem_singleton.1 lastIs
      rintro rfl
      exact absent present

/-- The value written last under a name is the one that is found. -/
theorem lookup_write (name value other : String) (entries : List (String × String)) :
    (write name value entries).lookup other =
      if other = name then some value else entries.lookup other := by
  induction entries with
  | nil =>
      rw [write, List.lookup_cons]
      by_cases same : other = name
      · simp [same]
      · simp [beq_eq_false_iff_ne.2 same, same]
  | cons entry rest ih =>
      obtain ⟨key, found⟩ := entry
      rw [write]
      by_cases here : key = name
      · subst here
        rw [if_pos rfl, List.lookup_cons, List.lookup_cons]
        by_cases same : other = key
        · simp [same]
        · simp [beq_eq_false_iff_ne.2 same, same]
      · rw [if_neg here, List.lookup_cons, List.lookup_cons, ih]
        by_cases there : other = key
        · subst there
          simp [here]
        · simp [beq_eq_false_iff_ne.2 there]

/-- The table without entries. -/
def empty : Table := ⟨[], List.nodup_nil⟩

instance : EmptyCollection Table := ⟨empty⟩

/-- Writes a value under a name. -/
def insert (table : Table) (name value : String) : Table :=
  ⟨write name value table.entries, nodup_map_fst_write name value table.distinct⟩

/-- The table that a sequence of writes leaves. -/
def ofList (writes : List (String × String)) : Table :=
  writes.foldl (fun table (name, value) => table.insert name value) ∅

/-- The value under exactly that name. -/
def get? (table : Table) (name : String) : Option String :=
  table.entries.lookup name

/-- The names in order. -/
def names (table : Table) : List String := table.entries.map Prod.fst

/-- Whether the table holds exactly that name. -/
def contains (table : Table) (name : String) : Bool := table.names.contains name

/-- How many names the table holds. -/
def size (table : Table) : Nat := table.entries.length

/-- Whether the table holds no names. -/
def isEmpty (table : Table) : Bool := table.entries.isEmpty

theorem get?_insert (table : Table) (name value other : String) :
    (table.insert name value).get? other =
      if other = name then some value else table.get? other :=
  lookup_write name value other table.entries

/-- A new name comes last, and a known one keeps its place. -/
theorem names_insert (table : Table) (name value : String) :
    (table.insert name value).names =
      if name ∈ table.names then table.names else table.names ++ [name] :=
  map_fst_write name value table.entries

theorem mem_names_insert {table : Table} {name value other : String} :
    other ∈ (table.insert name value).names ↔ other ∈ table.names ∨ other = name := by
  rw [names_insert]
  split
  · next present =>
      exact ⟨Or.inl, fun either => either.elim id fun equal => equal ▸ present⟩
  · simp

end Table

/-- The declarations of a block: values under property names. -/
abbrev Declarations := Table

end NestedStyles
