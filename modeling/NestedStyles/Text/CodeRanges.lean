import NestedStyles.Text.PartitionPoint

/-!
# Classes of characters

A class of characters is given by a test for ASCII and, beyond it, by an ascending
array of closed ranges of code points. Main statement: beyond ASCII a character is in
the class exactly if one of the ranges holds its code point
(`CharClass.contains_iff`).
-/

namespace NestedStyles.Text

/-- A closed range of code points. -/
structure CodeRange where
  first : Nat
  last : Nat

namespace CodeRange

/-- The code points of a range. -/
def Holds (range : CodeRange) (code : Nat) : Prop :=
  range.first ≤ code ∧ code ≤ range.last

instance (range : CodeRange) (code : Nat) : Decidable (range.Holds code) :=
  inferInstanceAs (Decidable (_ ∧ _))

/-- A range that is not empty and ends before another one starts. -/
def Precedes (range next : CodeRange) : Prop :=
  range.first ≤ range.last ∧ range.last < next.first

instance (range next : CodeRange) : Decidable (range.Precedes next) :=
  inferInstanceAs (Decidable (_ ∧ _))

theorem Precedes.trans {first second third : CodeRange} (before : first.Precedes second)
    (after : second.Precedes third) : first.Precedes third := by
  have := before.2
  have := after.1
  have := after.2
  exact ⟨before.1, by omega⟩

end CodeRange

/-- Ranges that ascend and do not overlap. -/
def Ascending : List CodeRange → Prop
  | range :: next :: rest => range.Precedes next ∧ Ascending (next :: rest)
  | _ => True

/-- Decides whether ranges ascend. -/
def decideAscending : (ranges : List CodeRange) → Decidable (Ascending ranges)
  | [] => isTrue trivial
  | [_] => isTrue trivial
  | range :: next :: rest =>
      have := decideAscending (next :: rest)
      inferInstanceAs (Decidable (range.Precedes next ∧ Ascending (next :: rest)))

instance (ranges : List CodeRange) : Decidable (Ascending ranges) := decideAscending ranges

/-- Ranges each of which precedes the next precede all later ones. -/
theorem Ascending.pairwise {ranges : List CodeRange} (ascending : Ascending ranges) :
    ranges.Pairwise CodeRange.Precedes := by
  fun_induction Ascending ranges with
  | case1 range next rest ih =>
      have tail := ih ascending.2
      refine List.pairwise_cons.2 ⟨?_, tail⟩
      intro other present
      rcases List.mem_cons.1 present with rfl | later
      · exact ascending.1
      · exact ascending.1.trans ((List.pairwise_cons.1 tail).1 other later)
  | case2 ranges short =>
      match ranges with
      | [] => exact .nil
      | [range] => exact List.pairwise_singleton _ _
      | range :: next :: rest => exact absurd rfl (short range next rest)

/-- Whether a code point lies in one of the ranges, which ascend: only the last
range that starts at or before it can hold it. -/
def inRanges (ranges : Array CodeRange) (code : Nat) : Bool :=
  match ranges[partitionPoint ranges (·.first ≤ code) - 1]? with
  | some range => range.Holds code
  | none => false

/-- An earlier range of an ascending table precedes a later one. -/
theorem Ascending.precedes {ranges : Array CodeRange} (ascending : Ascending ranges.toList)
    {i j : Nat} (before : i < j) (inside : j < ranges.size) :
    ranges[i].Precedes ranges[j] := by
  have pairwise := List.pairwise_iff_getElem.1 ascending.pairwise i j
    (by simpa using Nat.lt_trans before inside) (by simpa using inside) before
  simpa using pairwise

/-- The ranges that start at or before a code are the first ones of an ascending table. -/
theorem Ascending.partitions {ranges : Array CodeRange} (ascending : Ascending ranges.toList)
    (code : Nat) : Partitions ranges (·.first ≤ code) := by
  intro i j before inside started
  rcases Nat.lt_or_eq_of_le before with earlier | rfl
  · have := ascending.precedes earlier inside
    simp only [CodeRange.Precedes, decide_eq_true_eq] at this started ⊢
    omega
  · exact started

/-- The look-up finds exactly the code points of the ranges. -/
theorem inRanges_iff {ranges : Array CodeRange} (ascending : Ascending ranges.toList)
    (code : Nat) :
    inRanges ranges code ↔ ∃ range ∈ ranges, range.Holds code := by
  unfold inRanges
  constructor
  · intro found
    split at found
    · next range located =>
        exact ⟨range, Array.mem_of_getElem? located, of_decide_eq_true found⟩
    · contradiction
  · rintro ⟨range, present, holds⟩
    obtain ⟨i, inside, rfl⟩ := Array.getElem_of_mem present
    have started :=
      (holds_iff_lt_partitionPoint (ascending.partitions code) i inside).1 (by simpa using holds.1)
    have bounded := partitionPoint_le_size ranges (·.first ≤ code)
    have last : partitionPoint ranges (·.first ≤ code) - 1 = i := by
      refine Nat.le_antisymm (Nat.le_of_not_lt ?_) (by omega)
      intro later
      have precedes := ascending.precedes later (by omega)
      have begun := (holds_iff_lt_partitionPoint (ascending.partitions code)
        (partitionPoint ranges (·.first ≤ code) - 1) (by omega)).2 (by omega)
      simp only [CodeRange.Precedes, CodeRange.Holds, decide_eq_true_eq] at precedes holds begun
      omega
    rw [last, Array.getElem?_eq_getElem inside]
    simpa using holds

/-- A class of characters. -/
structure CharClass where
  /-- The test for characters of ASCII. -/
  ascii : Char → Bool
  /-- The code points beyond ASCII. -/
  ranges : Array CodeRange
  /-- The ranges ascend, so that one of them can be looked up by bisection. -/
  ascending : Ascending ranges.toList

namespace CharClass

/-- Whether a character is in the class. -/
def contains (chars : CharClass) (c : Char) : Bool :=
  if c.toNat < 0x80 then chars.ascii c else inRanges chars.ranges c.toNat

/-- A class has the characters of ASCII that pass its test, and those beyond that lie in
one of its ranges. -/
theorem contains_iff {chars : CharClass} {c : Char} :
    chars.contains c ↔
      if c.toNat < 0x80 then chars.ascii c = true
      else ∃ range ∈ chars.ranges, range.Holds c.toNat := by
  unfold contains
  split
  · exact Iff.rfl
  · exact inRanges_iff chars.ascending c.toNat

end CharClass

end NestedStyles.Text
