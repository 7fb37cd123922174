import Mathlib.Logic.Function.Basic

/-!
# What is held down

Keys go down and up one after another.  A key is held if it went down and has not gone up since,
no matter how often it went down.
-/

namespace OneDesk
namespace Lib

/-- A key goes down or up. -/
inductive Stroke (Key : Type*) where
  | down (key : Key)
  | up (key : Key)
  deriving DecidableEq

/-- The key that goes down or up. -/
def Stroke.key {Key : Type*} : Stroke Key → Key
  | .down key => key
  | .up key => key

variable {Key : Type*} [DecidableEq Key]

/-- What is held after a stroke. -/
def Stroke.apply (before : Key → Bool) : Stroke Key → Key → Bool
  | .down key => Function.update before key true
  | .up key => Function.update before key false

/-- A key is held after a stroke of it that is down, or as before. -/
theorem Stroke.apply_eq_true_iff (before : Key → Bool) (stroke : Stroke Key) (key : Key) :
    stroke.apply before key = true ↔
      stroke = .down key ∨ before key = true ∧ stroke ≠ .up key := by
  cases stroke with
  | down pressed =>
      by_cases same : key = pressed
      · simp [Stroke.apply, same]
      · simp [Stroke.apply, same, Ne.symm same]
  | up released =>
      by_cases same : key = released
      · simp [Stroke.apply, same]
      · simp [Stroke.apply, same, Ne.symm same]

/-- The keys that are held after some strokes. -/
def heldDown (strokes : List (Stroke Key)) : Key → Bool :=
  strokes.foldl Stroke.apply fun _ => false

@[simp] theorem heldDown_nil (key : Key) : heldDown ([] : List (Stroke Key)) key = false := rfl

theorem heldDown_append_down (strokes : List (Stroke Key)) (pressed key : Key) :
    heldDown (strokes ++ [.down pressed]) key =
      (decide (key = pressed) || heldDown strokes key) := by
  rw [heldDown, List.foldl_append]
  by_cases same : key = pressed
  · simp [Stroke.apply, same]
  · simp [Stroke.apply, same, heldDown]

theorem heldDown_append_up (strokes : List (Stroke Key)) (released key : Key) :
    heldDown (strokes ++ [.up released]) key =
      (decide (key ≠ released) && heldDown strokes key) := by
  rw [heldDown, List.foldl_append]
  by_cases same : key = released
  · simp [Stroke.apply, same]
  · simp [Stroke.apply, same, heldDown]

/-- A key that is held after one more press was held before, or is the one pressed. -/
theorem heldDown_of_append_down
    {strokes : List (Stroke Key)}
    {pressed key : Key}
    (isHeld : heldDown (strokes ++ [.down pressed]) key = true) :
    key = pressed ∨ heldDown strokes key = true := by
  rw [heldDown_append_down] at isHeld
  simpa using isHeld

/-- A key that is held after a release was held before, and is not the one released. -/
theorem heldDown_of_append_up
    {strokes : List (Stroke Key)}
    {released key : Key}
    (isHeld : heldDown (strokes ++ [.up released]) key = true) :
    key ≠ released ∧ heldDown strokes key = true := by
  rw [heldDown_append_up] at isHeld
  simpa using isHeld

end Lib
end OneDesk
