import Mathlib.Data.List.Induction

/-!
# What holds since an entry of a log

An entry that starts something is in a log, and no entry behind it stops it.
-/

namespace OneDesk
namespace Lib

variable {α : Type*} (starts stops : α → Prop)

/-- Something was started in a log and not stopped since. -/
def Since (log : List α) : Prop :=
  ∃ before entry after, log = before ++ entry :: after ∧ starts entry ∧
    ∀ later ∈ after, ¬stops later

theorem not_since_nil : ¬Since starts stops [] := by
  rintro ⟨before, entry, after, split, _⟩
  exact List.append_ne_nil_of_right_ne_nil before (List.cons_ne_nil entry after) split.symm

/-- One more entry starts it, or it held before and the entry does not stop it. -/
theorem since_concat (log : List α) (last : α) :
    Since starts stops (log ++ [last]) ↔
      starts last ∨ Since starts stops log ∧ ¬stops last := by
  constructor
  · rintro ⟨before, entry, after, split, started, unstopped⟩
    rcases List.eq_nil_or_concat after with rfl | ⟨others, final, rfl⟩
    · obtain ⟨rfl, same⟩ := List.append_inj' split rfl
      cases same
      exact .inl started
    · rw [List.concat_eq_append, ← List.cons_append, ← List.append_assoc] at split
      obtain ⟨rfl, same⟩ := List.append_inj' split rfl
      cases same
      refine .inr ⟨⟨before, entry, others, rfl, started, fun later member => ?_⟩, ?_⟩
      · exact unstopped later (by simp [member])
      · exact unstopped last (by simp)
  · rintro (started | ⟨⟨before, entry, after, rfl, started, unstopped⟩, goesOn⟩)
    · exact ⟨log, last, [], rfl, started, fun later member => absurd member List.not_mem_nil⟩
    · refine ⟨before, entry, after ++ [last], by simp, started, fun later member => ?_⟩
      rcases List.mem_append.mp member with inner | isLast
      · exact unstopped later inner
      · rwa [List.mem_singleton.mp isLast]

variable {starts stops}

/-- What holds was started. -/
theorem Since.exists_mem {log : List α} (since : Since starts stops log) :
    ∃ entry ∈ log, starts entry := by
  obtain ⟨before, entry, after, rfl, started, _⟩ := since
  exact ⟨entry, List.mem_append_right before List.mem_cons_self, started⟩

/-- Nothing before an entry that stops it counts. -/
theorem since_append_cons
    (before after : List α)
    {stop : α}
    (isStop : stops stop)
    (noStart : ¬starts stop) :
    Since starts stops (before ++ stop :: after) ↔ Since starts stops after := by
  induction after using List.reverseRecOn with
  | nil =>
      rw [since_concat]
      constructor
      · rintro (started | ⟨_, unstopped⟩)
        · exact absurd started noStart
        · exact absurd isStop unstopped
      · intro none
        exact absurd none (not_since_nil _ _)
  | append_singleton after last inductionHypothesis =>
      rw [← List.cons_append, ← List.append_assoc, since_concat, since_concat,
        inductionHypothesis]

end Lib
end OneDesk
