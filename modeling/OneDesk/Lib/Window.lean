import Mathlib.Data.List.DropRight

/-!
# Sliding windows

A window keeps what came last, up to a number of entries.  What was least of all that ever came
is carried along in one pass.
-/

namespace OneDesk
namespace Lib

variable {α : Type*}

/-- One more entry, for which the oldest has to go if the window is full. -/
def slide (size : Nat) (window : List α) (entry : α) : List α :=
  (if window.length ≥ size then window.tail else window) ++ [entry]

/-- A window never gets shorter. -/
theorem length_le_slide (size : Nat) (window : List α) (entry : α) :
    window.length ≤ (slide size window entry).length := by
  unfold slide
  rw [List.length_append, List.length_singleton]
  split
  · rw [List.length_tail]
    omega
  · omega

/-- A window that slides over a list has the last entries of it, in order. -/
theorem foldl_slide {size : Nat} (positive : 0 < size) (entries : List α) :
    entries.foldl (slide size) [] = entries.rtake size := by
  induction entries using List.reverseRecOn with
  | nil => simp
  | append_singleton entries entry inductionHypothesis =>
      obtain ⟨size, rfl⟩ := Nat.exists_eq_succ_of_ne_zero positive.ne'
      rw [List.foldl_append, List.foldl_cons, List.foldl_nil, inductionHypothesis,
        List.rtake_concat_succ, slide]
      congr 1
      simp only [List.rtake, List.length_drop]
      split
      next full =>
        rw [List.tail_drop]
        congr 1
        omega
      next few =>
        have all : entries.length - size.succ = 0 := by omega
        have allNext : entries.length - size = 0 := by omega
        rw [all, allNext]

section Minimum

/-- The least so far, with one more entry. -/
def lower [LT α] [DecidableLT α] (least : Option α) (entry : α) : Option α :=
  match least with
  | some least => if entry < least then some entry else some least
  | none => some entry

variable [LE α] [Min α] [Std.IsLinearOrder α] [Std.LawfulOrderMin α]

/-- The minimum of a list is at most that of a part of it. -/
theorem min?_le_of_subset
    {entries part : List α}
    {least leastOfPart : α}
    (isLeast : entries.min? = some least)
    (isLeastOfPart : part.min? = some leastOfPart)
    (subset : part ⊆ entries) :
    least ≤ leastOfPart :=
  (List.min?_eq_some_iff.mp isLeast).2 leastOfPart
    (subset (List.min?_eq_some_iff.mp isLeastOfPart).1)

variable [LT α] [DecidableLT α] [Std.LawfulOrderLT α]

theorem lower_eq_min (least entry : α) : lower (some least) entry = some (min least entry) := by
  unfold lower
  dsimp only
  split
  next less =>
    rcases Std.min_eq_or (a := least) (b := entry) with isLeast | isEntry
    · have atMost : least ≤ entry := by
        rw [← isLeast]
        exact Std.min_le_right
      exact absurd less (Std.not_lt.mpr atMost)
    · rw [isEntry]
  next notLess =>
    have atMost : least ≤ min least entry :=
      Std.le_min_iff.mpr ⟨Std.le_refl least, Std.not_lt.mp notLess⟩
    rw [Std.le_antisymm Std.min_le_left atMost]

/-- Carried along a list, the least entry is its minimum. -/
theorem foldl_lower (entries : List α) : entries.foldl lower none = entries.min? := by
  cases entries with
  | nil => rfl
  | cons first entries =>
      rw [List.min?_cons', List.foldl_cons]
      change entries.foldl lower (some first) = _
      induction entries generalizing first with
      | nil => rfl
      | cons second entries inductionHypothesis =>
          rw [List.foldl_cons, List.foldl_cons, lower_eq_min, inductionHypothesis]

end Minimum

end Lib
end OneDesk
