import Mathlib.Data.Finset.Card

/-!
# Roll calls

Members are called, they answer, and their answers are counted later.  An answer does not say
which call it is for.  Nobody is missing once as many are counted as were called, as long as no
answer is left over from before the call and nobody answers who was not called.
-/

namespace OneDesk
namespace Lib

/-- Who was called, who has answered since, and who has been counted. -/
structure RollCall (Member : Type*) where
  called : Finset Member
  answered : Finset Member
  counted : Finset Member

namespace RollCall

variable {Member : Type*}

/-- Every answer, whether it is counted or still waits, is to this call.  If nobody was called,
nothing is asked of the answers. -/
def Exact (roll : RollCall Member) (waiting : List Member) : Prop :=
  roll.called.Nonempty →
    (∀ member ∈ waiting, member ∈ roll.called ∧ member ∈ roll.answered) ∧
      ∀ member ∈ roll.counted, member ∈ roll.called ∧ member ∈ roll.answered

variable {roll : RollCall Member} {waiting fewer : List Member} {member : Member}

theorem exact_of_not_nonempty
    (nobody : ¬roll.called.Nonempty)
    (waiting : List Member) :
    roll.Exact waiting :=
  fun called => absurd called nobody

/-- A call is exact if nothing waits. -/
theorem exact_call
    (members : Finset Member)
    (nothingWaits : members.Nonempty → waiting = []) :
    RollCall.Exact ⟨members, ∅, ∅⟩ waiting := by
  intro called
  rw [nothingWaits called]
  exact ⟨fun _ waits => absurd waits List.not_mem_nil,
    fun _ counted => absurd counted (Finset.notMem_empty _)⟩

/-- Answers may get lost before they are counted. -/
theorem Exact.mono
    (exact_ : roll.Exact waiting)
    (subset : fewer ⊆ waiting) :
    roll.Exact fewer :=
  fun called => ⟨fun member waits => (exact_ called).1 member (subset waits), (exact_ called).2⟩

/-- When as many are counted as were called, everybody who was called has answered. -/
theorem Exact.complete
    (exact_ : roll.Exact waiting)
    (enough : roll.called.card ≤ roll.counted.card) :
    ∀ member ∈ roll.called, member ∈ roll.answered := by
  intro member isCalled
  have counted := (exact_ ⟨member, isCalled⟩).2
  have all : roll.counted = roll.called :=
    Finset.eq_of_subset_of_card_le (fun other isCounted => (counted other isCounted).1) enough
  exact (counted member (all ▸ isCalled)).2

variable [DecidableEq Member]

/-- Someone answers. -/
def answer (roll : RollCall Member) (member : Member) : RollCall Member :=
  { roll with answered := insert member roll.answered }

/-- An answer is counted. -/
def count (roll : RollCall Member) (member : Member) : RollCall Member :=
  { roll with counted := insert member roll.counted }

/-- Someone answers who was called. -/
theorem Exact.answer
    (exact_ : roll.Exact waiting)
    (isCalled : roll.called.Nonempty → member ∈ roll.called) :
    (roll.answer member).Exact (waiting ++ [member]) := by
  intro called
  obtain ⟨waits, counted⟩ := exact_ called
  constructor
  · intro other isWaiting
    rcases List.mem_append.mp isWaiting with before | last
    · exact ⟨(waits other before).1, Finset.mem_insert_of_mem (waits other before).2⟩
    · rw [List.mem_singleton.mp last]
      exact ⟨isCalled called, Finset.mem_insert_self member _⟩
  · intro other isCounted
    exact ⟨(counted other isCounted).1, Finset.mem_insert_of_mem (counted other isCounted).2⟩

/-- The answer that has waited longest is counted. -/
theorem Exact.count
    (exact_ : roll.Exact (member :: waiting)) :
    (roll.count member).Exact waiting := by
  intro called
  obtain ⟨waits, counted⟩ := exact_ called
  refine ⟨fun other isWaiting => waits other (List.mem_cons_of_mem _ isWaiting),
    fun other isCounted => ?_⟩
  rcases Finset.mem_insert.mp isCounted with rfl | before
  · exact waits other List.mem_cons_self
  · exact counted other before

end RollCall
end Lib
end OneDesk
