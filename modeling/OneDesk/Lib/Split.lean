import Mathlib.Data.List.Basic

/-!
# Splitting texts

A text is split at every place where a separator stands, which is one item or a
pair of items.  The lemmas say what is split off in front of the first
separator, so that a text that was put together from pieces is taken apart
piece by piece.
-/

namespace OneDesk
namespace Lib

variable {α : Type*} [BEq α] [LawfulBEq α]

/-- A text without a separator is one piece. -/
theorem splitOn_of_not_mem
    {separator : α}
    {piece : List α}
    (notIn : separator ∉ piece) :
    piece.splitOn separator = [piece] :=
  List.splitOnP_eq_singleton fun item member => by
    simpa using fun same : item = separator => notIn (same ▸ member)

/-- What stands in front of the first separator is the first piece. -/
theorem splitOn_append_cons
    {separator : α}
    {piece : List α}
    (rest : List α)
    (notIn : separator ∉ piece) :
    (piece ++ separator :: rest).splitOn separator =
      piece :: rest.splitOn separator := by
  refine List.splitOnP_append_cons_of_forall_mem (p := (· == separator))
    (fun item member => ?_) separator (beq_self_eq_true separator) rest
  simpa using fun same : item = separator => notIn (same ▸ member)

omit [LawfulBEq α] in
/-- The pieces are made of what the text is made of. -/
theorem mem_of_mem_splitOn
    {separator item : α}
    {text piece : List α}
    (isPiece : piece ∈ text.splitOn separator)
    (member : item ∈ piece) :
    item ∈ text := by
  induction text generalizing piece with
  | nil =>
      rw [List.splitOn_nil, List.mem_singleton] at isPiece
      rw [isPiece] at member
      cases member
  | cons first text inductionHypothesis =>
      rw [List.splitOn_cons_eq_if_modifyHead] at isPiece
      split at isPiece
      case isTrue =>
        rcases List.mem_cons.mp isPiece with rfl | isPiece
        · cases member
        · exact List.mem_cons_of_mem _ (inductionHypothesis isPiece member)
      case isFalse =>
        obtain ⟨head, pieces, split⟩ :=
          List.exists_cons_of_ne_nil (List.splitOn_ne_nil separator text)
        rw [split, List.modifyHead_cons] at isPiece
        rw [split] at inductionHypothesis
        rcases List.mem_cons.mp isPiece with rfl | isPiece
        · rcases List.mem_cons.mp member with rfl | member
          · exact List.mem_cons_self
          · exact List.mem_cons_of_mem _ (inductionHypothesis List.mem_cons_self member)
        · exact List.mem_cons_of_mem _
            (inductionHypothesis (List.mem_cons_of_mem _ isPiece) member)

/-- No separator is left in a piece. -/
theorem not_mem_of_mem_splitOn
    {separator : α}
    {text piece : List α}
    (isPiece : piece ∈ text.splitOn separator) :
    separator ∉ piece := by
  induction text generalizing piece with
  | nil =>
      rw [List.splitOn_nil, List.mem_singleton] at isPiece
      rw [isPiece]
      exact List.not_mem_nil
  | cons first text inductionHypothesis =>
      rw [List.splitOn_cons_eq_if_modifyHead] at isPiece
      split at isPiece
      case isTrue =>
        rcases List.mem_cons.mp isPiece with rfl | isPiece
        · exact List.not_mem_nil
        · exact inductionHypothesis isPiece
      case isFalse apart =>
        obtain ⟨head, pieces, split⟩ :=
          List.exists_cons_of_ne_nil (List.splitOn_ne_nil separator text)
        rw [split, List.modifyHead_cons] at isPiece
        rw [split] at inductionHypothesis
        rcases List.mem_cons.mp isPiece with rfl | isPiece
        · intro member
          rcases List.mem_cons.mp member with same | member
          · exact apart (by rw [same]; exact beq_self_eq_true first)
          · exact inductionHypothesis List.mem_cons_self member
        · exact inductionHypothesis (List.mem_cons_of_mem _ isPiece)

/-- A text whose pieces are all empty has nothing but separators. -/
theorem eq_replicate_of_splitOn
    {separator : α}
    {text : List α}
    (empty : ∀ piece ∈ text.splitOn separator, piece = []) :
    text = List.replicate text.length separator := by
  refine List.eq_replicate_iff.mpr ⟨rfl, ?_⟩
  induction text with
  | nil => simp
  | cons item text inductionHypothesis =>
      rw [List.splitOn_cons_eq_if_modifyHead] at empty
      split at empty
      case isTrue isSeparator =>
        rw [List.forall_mem_cons]
        exact ⟨eq_of_beq isSeparator,
          inductionHypothesis (List.forall_mem_cons.mp empty).2⟩
      case isFalse =>
        obtain ⟨piece, pieces, split⟩ :=
          List.exists_cons_of_ne_nil (List.splitOn_ne_nil separator text)
        rw [split] at empty
        cases empty (item :: piece) List.mem_cons_self

/-- Split a text where two items stand one after the other. -/
def splitOnPair (first second : α) : List α → List (List α)
  | item :: next :: rest =>
      if item == first && next == second then [] :: splitOnPair first second rest
      else (splitOnPair first second (next :: rest)).modifyHead (item :: ·)
  | [item] => [[item]]
  | [] => [[]]

theorem splitOnPair_cons_of_ne
    {first second item : α}
    (other : item ≠ first)
    {text : List α}
    (given : text ≠ []) :
    splitOnPair first second (item :: text) =
      (splitOnPair first second text).modifyHead (item :: ·) := by
  cases text with
  | nil => exact absurd rfl given
  | cons next rest => rw [splitOnPair, if_neg (by simp [other])]

/-- A text without the first item of the pair is one piece. -/
theorem splitOnPair_of_not_mem
    {first second : α}
    {piece : List α}
    (notIn : first ∉ piece) :
    splitOnPair first second piece = [piece] := by
  induction piece with
  | nil => rfl
  | cons item piece inductionHypothesis =>
      have other : item ≠ first := fun same => notIn (same ▸ List.mem_cons_self)
      have rest := inductionHypothesis fun member => notIn (List.mem_cons_of_mem _ member)
      by_cases last : piece = []
      · rw [last]
        rfl
      · rw [splitOnPair_cons_of_ne other last, rest]
        rfl

/-- What stands in front of the first pair is the first piece. -/
theorem splitOnPair_append
    {first second : α}
    {piece : List α}
    (rest : List α)
    (notIn : first ∉ piece) :
    splitOnPair first second (piece ++ first :: second :: rest) =
      piece :: splitOnPair first second rest := by
  induction piece with
  | nil => rw [List.nil_append, splitOnPair, if_pos (by simp)]
  | cons item piece inductionHypothesis =>
      have other : item ≠ first := fun same => notIn (same ▸ List.mem_cons_self)
      rw [List.cons_append, splitOnPair_cons_of_ne other (by simp),
        inductionHypothesis fun member => notIn (List.mem_cons_of_mem _ member)]
      rfl

end Lib
end OneDesk
