import Mathlib.Algebra.BigOperators.Group.List.Basic
import Mathlib.Algebra.GroupWithZero.Nat
import NestedStyles.Proofs.Render.PlacedBlock

/-!
# Stacks of selectors, cut anywhere

Combining lists of selectors is associative (`combine_assoc`), so the flat selectors of a
stack are those of its outer part combined with those of its inner part, wherever the cut is
(`flatSelectors_append`). Hence it makes no difference whether a stack is worked through from
its innermost group outwards or from the selectors of the rulesets around it inwards. Main
statement: `flatSelectors_of_cut`.
-/

namespace NestedStyles

theorem combine_assoc (outer middle inner : List String) :
    combine (combine outer middle) inner = combine outer (combine middle inner) := by
  unfold combine
  rw [List.flatMap_assoc]
  apply List.flatMap_congr
  intro ancestor _
  simp only [List.flatMap_map, List.map_flatMap, List.map_map, Function.comp_def,
    String.append_assoc]

section Stacks

variable {outer inner : List SelectorGroup}

theorem flatSelectors_cons (group : SelectorGroup) (innerOpen : inner ≠ []) :
    flatSelectors (group :: inner) = combine group (flatSelectors inner) := by
  obtain ⟨next, deeper, rfl⟩ := List.exists_cons_of_ne_nil innerOpen
  rfl

/-- A stack may be cut between any two groups. -/
theorem flatSelectors_append (outerOpen : outer ≠ []) (innerOpen : inner ≠ []) :
    flatSelectors (outer ++ inner) = combine (flatSelectors outer) (flatSelectors inner) := by
  induction outer with
  | nil => contradiction
  | cons group between ih =>
      rw [List.cons_append,
        flatSelectors_cons group (List.append_ne_nil_of_right_ne_nil between innerOpen)]
      by_cases only : between = []
      · subst only
        rfl
      · rw [ih only, ← combine_assoc, ← flatSelectors_cons group only]

/-- From the flat selectors of the rulesets around it, a stack is worked through inwards. -/
theorem foldl_combine_flatSelectors (outerOpen : outer ≠ []) :
    inner.foldl combine (flatSelectors outer) = flatSelectors (outer ++ inner) := by
  induction inner generalizing outer with
  | nil => rw [List.foldl_nil, List.append_nil]
  | cons group deeper ih =>
      have entered : combine (flatSelectors outer) group = flatSelectors (outer ++ [group]) :=
        (flatSelectors_append outerOpen (List.cons_ne_nil group [])).symm
      rw [List.foldl_cons, entered, ih (List.append_ne_nil_of_left_ne_nil outerOpen _),
        ← List.append_cons]

/-- From the flat selectors of the rulesets inside, a stack is worked through outwards. -/
theorem foldr_combine_flatSelectors (innerOpen : inner ≠ []) :
    outer.foldr combine (flatSelectors inner) = flatSelectors (outer ++ inner) := by
  induction outer with
  | nil => rfl
  | cons group between ih =>
      rw [List.foldr_cons, ih, List.cons_append,
        flatSelectors_cons group (List.append_ne_nil_of_right_ne_nil between innerOpen)]

end Stacks

theorem length_choices (groups : List SelectorGroup) :
    (choices groups).length = (groups.map List.length).prod := by
  induction groups with
  | nil => rfl
  | cons group inner ih => simp [choices, List.length_flatMap, ih]

/-- **A stack of selectors can be cut anywhere.** The flat selectors are those of the outer
part, each followed by a blank and one of the inner part, the outer ones varying slowest. They
are the same from the outer part inwards, one group after another, and from the inner part
outwards. There are as many as the sizes of all groups multiply to. -/
theorem flatSelectors_of_cut (groups : List SelectorGroup) :
    (∀ outer inner, groups = outer ++ inner → outer ≠ [] → inner ≠ [] →
      flatSelectors groups =
          ((flatSelectors outer).flatMap fun ancestor =>
            (flatSelectors inner).map fun descendant => ancestor ++ " " ++ descendant) ∧
        flatSelectors groups = inner.foldl combine (flatSelectors outer) ∧
        flatSelectors groups = outer.foldr combine (flatSelectors inner)) ∧
    (groups ≠ [] → (flatSelectors groups).length = (groups.map List.length).prod) := by
  constructor
  · rintro outer inner rfl outerOpen innerOpen
    refine ⟨flatSelectors_append outerOpen innerOpen, ?_, ?_⟩
    · exact (foldl_combine_flatSelectors outerOpen).symm
    · exact (foldr_combine_flatSelectors innerOpen).symm
  · intro someOpen
    rw [flatSelectors_eq_map_choices someOpen, List.length_map, length_choices]

/-- Three groups, cut behind the second: the selectors of the first two are written once and
serve for each selector of the third. -/
theorem flatSelectors_of_cut_threeGroups :
    flatSelectors [["a", "b"], ["c", "d"]] = ["a c", "a d", "b c", "b d"] ∧
      flatSelectors [["a", "b"], ["c", "d"], ["e"]] = ["a c e", "a d e", "b c e", "b d e"] ∧
      (flatSelectors [["a", "b"], ["c", "d"], ["e"]]).length = 2 * (2 * 1) := by
  obtain ⟨cut, length⟩ := flatSelectors_of_cut [["a", "b"], ["c", "d"], ["e"]]
  have outer : flatSelectors [["a", "b"], ["c", "d"]] = ["a c", "a d", "b c", "b d"] := by decide
  obtain ⟨combined, _⟩ := cut [["a", "b"], ["c", "d"]] [["e"]] rfl (by simp) (by simp)
  refine ⟨outer, ?_, ?_⟩
  · rw [combined, outer]
    decide
  · rw [length (by simp)]
    rfl

end NestedStyles
