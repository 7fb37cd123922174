import Mathlib.Tactic.TypeStar

/-!
# Computations with a trace

A traced computation notes what it does on its way and ends with a value or an
error.  What it has noted stays noted when it fails.  `All` speaks about
everything a computation notes, and follows its sequencing.
-/

namespace OneDesk
namespace Lib

/-- What a computation does, and how it ends. -/
structure Traced (Error Act α : Type) where
  trace : List Act
  outcome : Except Error α

namespace Traced

variable {Error Act α β : Type}

/-- End without a value. -/
def fail (error : Error) : Traced Error Act α :=
  ⟨[], .error error⟩

/-- Do something. -/
def act (done : Act) : Traced Error Act Unit :=
  ⟨[done], .ok ()⟩

/-- Go on with a value, or end with its error. -/
def lift (outcome : Except Error α) : Traced Error Act α :=
  ⟨[], outcome⟩

/-- One computation, then the one its value selects. -/
def andThen (first : Traced Error Act α) (next : α → Traced Error Act β) :
    Traced Error Act β :=
  match first.outcome with
  | .ok value => ⟨first.trace ++ (next value).trace, (next value).outcome⟩
  | .error error => ⟨first.trace, .error error⟩

instance : Monad (Traced Error Act) where
  pure value := ⟨[], .ok value⟩
  bind := andThen

/-- Everything a computation does meets a condition. -/
def All (allowed : Act → Prop) (computation : Traced Error Act α) : Prop :=
  ∀ done ∈ computation.trace, allowed done

variable
  {allowed : Act → Prop}
  {first : Traced Error Act α}
  {next : α → Traced Error Act β}

@[simp] theorem outcome_pure (value : α) :
    (pure value : Traced Error Act α).outcome = .ok value :=
  rfl

@[simp] theorem outcome_act (done : Act) :
    (act done : Traced Error Act Unit).outcome = .ok () :=
  rfl

@[simp] theorem outcome_lift (outcome : Except Error α) :
    (lift outcome : Traced Error Act α).outcome = outcome :=
  rfl

@[simp] theorem outcome_fail (error : Error) :
    (fail error : Traced Error Act α).outcome = .error error :=
  rfl

@[simp] theorem all_pure (value : α) :
    (pure value : Traced Error Act α).All allowed := by
  intro done member
  cases member

@[simp] theorem all_lift (outcome : Except Error α) :
    (lift outcome : Traced Error Act α).All allowed := by
  intro done member
  cases member

@[simp] theorem all_fail (error : Error) :
    (fail error : Traced Error Act α).All allowed := by
  intro done member
  cases member

@[simp] theorem all_act {done : Act} :
    (act done : Traced Error Act Unit).All allowed ↔ allowed done := by
  simp [All, act]

theorem bind_of_ok {value : α} (ended : first.outcome = .ok value) :
    first >>= next = ⟨first.trace ++ (next value).trace, (next value).outcome⟩ := by
  show andThen first next = _
  rw [andThen, ended]

theorem bind_of_error {error : Error} (ended : first.outcome = .error error) :
    first >>= next = ⟨first.trace, .error error⟩ := by
  show andThen first next = _
  rw [andThen, ended]

/-- What holds of all of a sequence holds of its parts, and of the second for the
value the first ends with. -/
theorem all_bind :
    (first >>= next).All allowed ↔
      first.All allowed ∧
        ∀ value, first.outcome = .ok value → (next value).All allowed := by
  cases ended : first.outcome with
  | error error => simp [bind_of_error ended, All]
  | ok value => simp [bind_of_ok ended, All, or_imp, forall_and]

/-- A sequence gets through if both its parts do. -/
theorem bind_ok_iff {result : β} :
    (first >>= next).outcome = .ok result ↔
      ∃ value, first.outcome = .ok value ∧ (next value).outcome = .ok result := by
  cases ended : first.outcome with
  | error error => simp [bind_of_error ended]
  | ok value => simp [bind_of_ok ended]

end Traced
end Lib
end OneDesk
