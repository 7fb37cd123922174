import Mathlib.Tactic.TypeStar

/-!
# Courses

A course is a list of labels together with states that a labelled step
relation leads through.  Two parties that handle the same labels, one behind
the other, are joined by the course of the labels that are still under way: the
one ahead adds a label at its end, the one behind takes its first.
-/

namespace OneDesk
namespace Lib

variable {State Label : Type*} (step : State → Label → State → Prop)

/-- A list of labels that leads from one state to another. -/
def Course : State → List Label → State → Prop
  | start, [], final => start = final
  | start, label :: labels, final => ∃ next, step start label next ∧ Course next labels final

variable {step}
variable {start middle final : State} {label : Label} {labels : List Label}

@[simp] theorem course_nil : Course step start [] final ↔ start = final := Iff.rfl

/-- A single label is a course. -/
theorem Course.one (taken : step start label final) : Course step start [label] final :=
  ⟨final, taken, rfl⟩

/-- Courses that meet are joined. -/
theorem Course.append
    {others : List Label}
    (first : Course step start labels middle)
    (second : Course step middle others final) :
    Course step start (labels ++ others) final := by
  induction labels generalizing start with
  | nil =>
      obtain rfl := first
      exact second
  | cons label labels ih =>
      obtain ⟨next, taken, rest⟩ := first
      exact ⟨next, taken, ih rest⟩

/-- A state that no step leaves has only the empty course. -/
theorem Course.nil_of_stuck
    (course : Course step start labels final)
    (stuck : ∀ label next, ¬step start label next) :
    labels = [] ∧ start = final := by
  cases labels with
  | nil => exact ⟨rfl, course⟩
  | cons label labels =>
      obtain ⟨next, taken, _⟩ := course
      exact absurd taken (stuck label next)

end Lib
end OneDesk
