import Mathlib.Tactic.TypeStar

/-!
# Races

Computations run side by side, and the first that succeeds ends the race.  If none
succeeds, the error of the last that fails is the outcome.
-/

namespace OneDesk
namespace Lib

/-- A computation in a race: when it ends, and how. -/
structure Contender (Error α : Type) where
  finished : Nat
  result : Except Error α

variable {Error α : Type}

namespace Contender

/-- The contender that decides a race of two. -/
def race (first second : Contender Error α) : Contender Error α :=
  match first.result, second.result with
  | .ok _, .ok _ => if first.finished ≤ second.finished then first else second
  | .ok _, .error _ => first
  | .error _, .ok _ => second
  | .error _, .error _ => if first.finished ≤ second.finished then second else first

variable {first second : Contender Error α}

/-- A race is decided by one of those who run. -/
theorem race_eq_or (first second : Contender Error α) :
    first.race second = first ∨ first.race second = second := by
  unfold race
  split
  · split
    · exact .inl rfl
    · exact .inr rfl
  · exact .inl rfl
  · exact .inr rfl
  · split
    · exact .inr rfl
    · exact .inl rfl

/-- Whoever is ahead of another has succeeded before it, or alone. -/
def Ahead (first second : Contender Error α) : Prop :=
  ∃ value, first.result = .ok value ∧
    ((∃ error, second.result = .error error) ∨ first.finished ≤ second.finished)

theorem race_of_ahead (ahead : first.Ahead second) : first.race second = first := by
  obtain ⟨value, succeeds, ⟨error, fails⟩ | inTime⟩ := ahead
  · simp [race, succeeds, fails]
  · rcases ended : second.result with error | other
    · simp [race, succeeds, ended]
    · simp [race, succeeds, ended, inTime]

/-- Who is not ahead lets the other decide, or fails as well. -/
theorem race_of_not_ahead
    (behind : ¬first.Ahead second)
    {value : α}
    (won : (first.race second).result = .ok value) :
    second.result = .ok value := by
  rcases race_eq_or first second with isFirst | isSecond
  · rw [isFirst] at won
    rcases ended : second.result with error | other
    · exact absurd ⟨value, won, .inl ⟨error, ended⟩⟩ behind
    · rw [race, won, ended] at isFirst
      dsimp only at isFirst
      split at isFirst
      · next inTime => exact absurd ⟨value, won, .inr inTime⟩ behind
      · rw [isFirst, won] at ended
        exact ended.symm
  · rwa [isSecond] at won

end Contender

/-- `select_ok` on at least one computation. -/
def selectOk (first : Contender Error α) (others : List (Contender Error α)) :
    Except Error α :=
  (others.foldl Contender.race first).result

@[simp] theorem selectOk_pair (first second : Contender Error α) :
    selectOk first [second] = (first.race second).result :=
  rfl

end Lib
end OneDesk
