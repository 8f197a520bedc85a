/-!
# Partition points

Binary search for the place where a test stops holding along an array, the
look-up behind both the character tables and the line index. Main statement: in
an array where the test never holds again once it has failed, it holds exactly
before the partition point (`holds_iff_lt_partitionPoint`).
-/

namespace NestedStyles.Text

/-- The partition point of `holds` between the positions `low` and `high`. -/
def partitionPointBetween {α : Type} (values : Array α) (holds : α → Bool)
    (low high : Nat) (bounded : high ≤ values.size) : Nat :=
  if _within : low < high then
    let middle := (low + high) / 2
    if holds values[middle] then
      partitionPointBetween values holds (middle + 1) high bounded
    else
      partitionPointBetween values holds low middle (by omega)
  else
    low
termination_by high - low

/-- How many leading values satisfy `holds`, for an array in which no value
satisfies it after one that does not. -/
def partitionPoint {α : Type} (values : Array α) (holds : α → Bool) : Nat :=
  partitionPointBetween values holds 0 values.size (Nat.le_refl _)

/-- A test that never holds again along an array once it has failed. -/
def Partitions {α : Type} (values : Array α) (holds : α → Bool) : Prop :=
  ∀ (i j : Nat) (before : i ≤ j) (inside : j < values.size),
    holds values[j] → holds values[i]

/-- The search never leaves its bounds. -/
theorem partitionPointBetween_le {α : Type} (values : Array α) (holds : α → Bool)
    (low high : Nat) (bounded : high ≤ values.size) (ordered : low ≤ high) :
    partitionPointBetween values holds low high bounded ≤ high := by
  fun_induction partitionPointBetween values holds low high bounded with
  | case1 low high bounded within middle _ ih =>
      exact ih (by omega)
  | case2 low high bounded within middle _ ih =>
      exact Nat.le_trans (ih (by omega)) (by omega)
  | case3 low high bounded _ =>
      exact ordered

theorem partitionPoint_le_size {α : Type} (values : Array α) (holds : α → Bool) :
    partitionPoint values holds ≤ values.size :=
  partitionPointBetween_le values holds 0 values.size (Nat.le_refl _) (Nat.zero_le _)

/-- The search keeps the partition point between its bounds. -/
theorem holds_iff_lt_partitionPointBetween {α : Type} {values : Array α} {holds : α → Bool}
    (partitions : Partitions values holds) (low high : Nat) (bounded : high ≤ values.size)
    (ordered : low ≤ high)
    (below : ∀ (i : Nat) (inside : i < values.size), i < low → holds values[i])
    (above : ∀ (i : Nat) (inside : i < values.size), high ≤ i → ¬ holds values[i])
    (i : Nat) (inside : i < values.size) :
    holds values[i] ↔ i < partitionPointBetween values holds low high bounded := by
  fun_induction partitionPointBetween values holds low high bounded with
  | case1 low high bounded within middle found ih =>
      refine ih (by omega) ?_ above
      intro j inside' before
      exact partitions j middle (by omega) (by omega) found
  | case2 low high bounded within middle missed ih =>
      refine ih (by omega) below ?_
      intro j inside' after found
      exact missed (partitions middle j after inside' found)
  | case3 low high bounded crossed =>
      constructor
      · intro found
        exact Nat.lt_of_not_le fun after => above i inside (by omega) found
      · exact below i inside

/-- A test that partitions an array holds exactly before the partition point. -/
theorem holds_iff_lt_partitionPoint {α : Type} {values : Array α} {holds : α → Bool}
    (partitions : Partitions values holds) (i : Nat) (inside : i < values.size) :
    holds values[i] ↔ i < partitionPoint values holds :=
  holds_iff_lt_partitionPointBetween partitions 0 values.size (Nat.le_refl _)
    (Nat.zero_le _) (fun _ _ before => absurd before (Nat.not_lt_zero _))
    (fun _ within after => absurd within (Nat.not_lt.2 after)) i inside

end NestedStyles.Text
