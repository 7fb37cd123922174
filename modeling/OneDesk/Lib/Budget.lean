import OneDesk.Lib.Run

/-!
# What a run spends

Every step of a run has a cost.  A potential that pays for the cost of each step bounds what a whole
run spends by what the potential was before it.
-/

namespace OneDesk
namespace Lib

variable {State Event : Type*} (step : State → Event → State) (cost : State → Event → Nat)

/-- The costs of the steps of a run together. -/
def spent : State → List Event → Nat
  | _, [] => 0
  | state, event :: events => cost state event + spent (step state event) events

@[simp] theorem spent_nil (state : State) : spent step cost state [] = 0 := rfl

@[simp] theorem spent_cons
    (state : State)
    (event : Event)
    (events : List Event) :
    spent step cost state (event :: events) =
      cost state event + spent step cost (step state event) events := rfl

variable {step cost}

/-- Budget rule: if under an invariant the potential pays for every admissible step, it pays for
every admissible run. -/
theorem spent_add_potential_le
    {admissible : State → Event → Prop}
    (invariant : State → Prop)
    (potential : State → Nat)
    (preserved : ∀ state event,
      invariant state → admissible state event → invariant (step state event))
    (pays : ∀ state event, invariant state → admissible state event →
      cost state event + potential (step state event) ≤ potential state)
    {state : State}
    {events : List Event}
    (initially : invariant state)
    (along : Along step admissible state events) :
    spent step cost state events + potential (run step state events) ≤ potential state := by
  induction events generalizing state with
  | nil => simp
  | cons event events inductionHypothesis =>
      obtain ⟨admissible, along⟩ := along
      have rest := inductionHypothesis (preserved state event initially admissible) along
      have first := pays state event initially admissible
      rw [spent_cons, run_cons]
      omega

end Lib
end OneDesk
