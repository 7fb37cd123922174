import Mathlib.Data.List.Basic
import Mathlib.Order.Lattice

/-!
# Binary search

A search that halves the places it looks at until one is left.  It finds what is in a strictly
increasing list.
-/

namespace OneDesk
namespace Lib

variable {α : Type*} [LinearOrder α]

/-- The last place that is left of some places, after each half of them was compared. -/
def narrow (values : List α) (target : α) (base size : Nat) : Nat :=
  if 1 < size then
    let half := size / 2
    let mid := base + half
    let left := match values[mid]? with
      | some value => decide (target < value)
      | none => true
    narrow values target (if left then base else mid) (size - half)
  else base
  termination_by size
  decreasing_by omega

/-- `binary_search` of a slice: the place of the target. -/
def binarySearch (values : List α) (target : α) : Option Nat :=
  let base := narrow values target 0 values.length
  if values[base]? = some target then some base else none

variable {values : List α} {target : α}

/-- The place of the target is never left out. -/
theorem narrow_eq
    (increasing : values.Pairwise (· < ·))
    {place : Nat}
    (isThere : values[place]? = some target)
    (base size : Nat)
    (low : base ≤ place)
    (high : place < base + size) :
    narrow values target base size = place := by
  induction size using Nat.strongRecOn generalizing base with
  | ind size inductionHypothesis =>
      obtain ⟨inside, isTarget⟩ := List.getElem?_eq_some_iff.mp isThere
      rw [narrow]
      split
      · next many =>
          have smaller : size - size / 2 < size := by omega
          have ordered := List.pairwise_iff_getElem.mp increasing
          rcases Nat.lt_or_ge place (base + size / 2) with before | behind
          · have left : (match values[base + size / 2]? with
                | some value => decide (target < value)
                | none => true) = true := by
              cases isMid : values[base + size / 2]? with
              | none => rfl
              | some value =>
                  obtain ⟨midInside, isValue⟩ := List.getElem?_eq_some_iff.mp isMid
                  have less := ordered place (base + size / 2) inside midInside before
                  rw [isTarget, isValue] at less
                  exact decide_eq_true less
            dsimp only
            rw [left, if_pos rfl]
            exact inductionHypothesis _ smaller base low (by omega)
          · have midInside : base + size / 2 < values.length := by omega
            have left : (match values[base + size / 2]? with
                | some value => decide (target < value)
                | none => true) = false := by
              rw [List.getElem?_eq_getElem midInside]
              apply decide_eq_false
              rw [← isTarget, not_lt]
              rcases Nat.eq_or_lt_of_le behind with same | further
              · simp only [same, le_refl]
              · exact le_of_lt (ordered _ place midInside inside further)
            dsimp only
            rw [left, if_neg Bool.false_ne_true]
            exact inductionHypothesis _ smaller _ behind (by omega)
      · next few =>
          omega

/-- In a strictly increasing list the search finds exactly the place of the target. -/
theorem binarySearch_eq_some_iff
    (increasing : values.Pairwise (· < ·))
    (place : Nat) :
    binarySearch values target = some place ↔ values[place]? = some target := by
  unfold binarySearch
  dsimp only
  constructor
  · intro found
    split at found
    · next isThere =>
        cases found
        exact isThere
    · cases found
  · intro isThere
    have inside := (List.getElem?_eq_some_iff.mp isThere).1
    have last := narrow_eq increasing isThere 0 values.length (Nat.zero_le place) (by omega)
    rw [last, if_pos isThere]

/-- In a strictly increasing list the search finds exactly the members. -/
theorem isSome_binarySearch_iff (increasing : values.Pairwise (· < ·)) :
    (binarySearch values target).isSome = true ↔ target ∈ values := by
  rw [Option.isSome_iff_exists, List.mem_iff_getElem?]
  exact exists_congr (binarySearch_eq_some_iff increasing)

end Lib
end OneDesk
