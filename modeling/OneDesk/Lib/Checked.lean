import Mathlib.Tactic.TypeStar

/-!
# Computations that note their faults

A checked computation goes on after a fault and notes it, so its value is the
one of the unchecked program and its faults are those that a checking build
would have stopped at.  A computation is clean if it notes nothing.
-/

namespace OneDesk
namespace Lib

/-- A value together with the faults noted on the way to it. -/
structure Checked (Fault α : Type) where
  value : α
  faults : List Fault

namespace Checked

variable {Fault α β : Type}

instance : Monad (Checked Fault) where
  pure value := ⟨value, []⟩
  bind computation next :=
    ⟨(next computation.value).value,
      computation.faults ++ (next computation.value).faults⟩

/-- Note a fault unless a condition holds. -/
def ensure (condition : Prop) [Decidable condition] (fault : Fault) (value : α) :
    Checked Fault α :=
  ⟨value, if condition then [] else [fault]⟩

@[simp] theorem value_pure (value : α) :
    (pure value : Checked Fault α).value = value :=
  rfl

@[simp] theorem faults_pure (value : α) :
    (pure value : Checked Fault α).faults = [] :=
  rfl

@[simp] theorem value_bind
    (computation : Checked Fault α)
    (next : α → Checked Fault β) :
    (computation >>= next).value = (next computation.value).value :=
  rfl

@[simp] theorem faults_bind
    (computation : Checked Fault α)
    (next : α → Checked Fault β) :
    (computation >>= next).faults =
      computation.faults ++ (next computation.value).faults :=
  rfl

@[simp] theorem value_ensure
    (condition : Prop)
    [Decidable condition]
    (fault : Fault)
    (value : α) :
    (ensure condition fault value).value = value :=
  rfl

@[simp] theorem faults_ensure_eq_nil
    (condition : Prop)
    [Decidable condition]
    (fault : Fault)
    (value : α) :
    (ensure condition fault value).faults = [] ↔ condition := by
  simp [ensure]

/-- One computation for each member of a list. -/
def forEach (computation : α → Checked Fault β) : List α → Checked Fault (List β)
  | [] => pure []
  | first :: rest => do
      let value ← computation first
      let values ← forEach computation rest
      return value :: values

@[simp] theorem value_forEach
    (computation : α → Checked Fault β)
    (list : List α) :
    (forEach computation list).value = list.map fun item => (computation item).value := by
  induction list with
  | nil => rfl
  | cons first rest inductionHypothesis => simp [forEach, inductionHypothesis]

@[simp] theorem faults_forEach_eq_nil
    (computation : α → Checked Fault β)
    (list : List α) :
    (forEach computation list).faults = [] ↔
      ∀ item ∈ list, (computation item).faults = [] := by
  induction list with
  | nil => simp [forEach]
  | cons first rest inductionHypothesis => simp [forEach, inductionHypothesis]

section Fold

variable {State : Type} (next : State → α → Checked Fault State)

@[simp] theorem value_foldlM
    (state : State)
    (list : List α) :
    (list.foldlM next state).value =
      list.foldl (fun state item => (next state item).value) state := by
  induction list generalizing state with
  | nil => rfl
  | cons first rest inductionHypothesis =>
      rw [List.foldlM_cons, value_bind, inductionHypothesis, List.foldl_cons]

/-- A fold notes nothing if no step does, where this does not depend on the state. -/
theorem faults_foldlM_eq_nil_iff
    {clean : α → Prop}
    (isClean : ∀ state item, (next state item).faults = [] ↔ clean item)
    (state : State)
    (list : List α) :
    (list.foldlM next state).faults = [] ↔ ∀ item ∈ list, clean item := by
  induction list generalizing state with
  | nil => simp
  | cons first rest inductionHypothesis =>
      rw [List.foldlM_cons, faults_bind, List.append_eq_nil_iff, isClean, inductionHypothesis,
        List.forall_mem_cons]

end Fold

end Checked

end Lib
end OneDesk
