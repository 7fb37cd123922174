import Mathlib.Data.List.TakeDrop
import Mathlib.Tactic.TypeStar

/-!
# Buffered readers

A reader takes bytes out of a file in large pieces and keeps what is not consumed in a
buffer.  What is still to be read is the buffer followed by the rest of the file, wherever
the buffer ends.  The file may change between two operations, so each is given the contents
that the file has then.  The rules are those of the Rust standard library's `BufReader`.
-/

namespace OneDesk
namespace Lib

variable {α : Type*}

/-- Where a file is read next, and the elements before that place that are not consumed. -/
structure BufReader (α : Type*) where
  position : Nat
  buffer : List α
  fits : buffer.length ≤ position
  deriving DecidableEq

namespace BufReader

/-- A file that has just been opened. -/
def new : BufReader α := ⟨0, [], Nat.le_refl 0⟩

variable (capacity : Nat) (contents : List α) (reader : BufReader α)

/-- The place up to which the file is consumed. -/
def place : Nat := reader.position - reader.buffer.length

/-- What is still to be read. -/
def rest : List α := reader.buffer ++ contents.drop reader.position

/-- What the buffer holds for a place of the file. -/
def loaded (place : Nat) : Option α :=
  if reader.place ≤ place then reader.buffer[place - reader.place]? else none

/-- Take elements from the front of the buffer. -/
def consume (count : Nat) : BufReader α where
  position := reader.position
  buffer := reader.buffer.drop count
  fits := by
    have fits := reader.fits
    rw [List.length_drop]
    omega

/-- `BufReader::fill_buf`: an empty buffer is filled. -/
def fillBuf : BufReader α :=
  if reader.buffer = [] then
    { position := reader.position + ((contents.drop reader.position).take capacity).length
      buffer := (contents.drop reader.position).take capacity
      fits := Nat.le_add_left _ _ }
  else reader

/-- `BufReader::read`: large reads go past an empty buffer. -/
def read (length : Nat) : List α × BufReader α :=
  if reader.buffer = [] ∧ capacity ≤ length then
    ((contents.drop reader.position).take length,
      { position := reader.position + ((contents.drop reader.position).take length).length
        buffer := []
        fits := Nat.zero_le _ })
  else
    let filled := reader.fillBuf capacity contents
    (filled.buffer.take length, filled.consume length)

/-- The loop of `read_exact`, for a number of turns. -/
def readLoop : Nat → Nat → BufReader α → Option (List α) × BufReader α
  | _, 0, reader => (some [], reader)
  | 0, _ + 1, reader => (none, reader)
  | turns + 1, length + 1, reader =>
      match reader.read capacity contents (length + 1) with
      | ([], after) => (none, after)
      | (data, after) =>
          let others := readLoop turns (length + 1 - data.length) after
          (others.1.map fun more => data ++ more, others.2)

/-- `BufReader::read_exact`.  Each turn of the loop takes an element or is the last. -/
def readExact (length : Nat) : Option (List α) × BufReader α :=
  if length ≤ reader.buffer.length then (some (reader.buffer.take length), reader.consume length)
  else readLoop capacity contents length length reader

/-- `BufReader::seek` from the start of the file: the buffer is given up. -/
def seek (target : Nat) : BufReader α := ⟨target, [], Nat.zero_le target⟩

variable {capacity contents reader}

/-- The elements to be read are those that the buffer or the file has at their places. -/
theorem getElem?_rest (index : Nat) :
    (reader.rest contents)[index]? =
      (reader.loaded (reader.place + index)).or contents[reader.place + index]? := by
  have fits := reader.fits
  rw [rest, loaded, if_pos (Nat.le_add_right _ _), Nat.add_sub_cancel_left]
  rcases Nat.lt_or_ge index reader.buffer.length with inside | outside
  · rw [List.getElem?_append_left inside, List.getElem?_eq_getElem inside, Option.some_or]
  · rw [List.getElem?_append_right outside, List.getElem?_eq_none outside, Option.none_or,
      List.getElem?_drop]
    congr 1
    unfold place
    omega

/-- Nothing of the file is behind what is to be read. -/
theorem length_le_place_add_rest (contents : List α) (reader : BufReader α) :
    contents.length ≤ reader.place + (reader.rest contents).length := by
  have fits := reader.fits
  rw [place, rest, List.length_append, List.length_drop]
  omega

/-- Elements have been taken from the front of what is to be read, and what is in the buffer
was there or is in the file. -/
structure Taken (contents : List α) (reader : BufReader α) (data : List α)
    (after : BufReader α) : Prop where
  rest : data ++ after.rest contents = reader.rest contents
  place : after.place = reader.place + data.length
  loaded : ∀ place element, after.loaded place = some element →
    reader.loaded place = some element ∨ contents[place]? = some element

theorem Taken.refl (reader : BufReader α) : Taken contents reader [] reader :=
  ⟨rfl, rfl, fun _ _ held => .inl held⟩

theorem Taken.trans
    {data more : List α}
    {middle after : BufReader α}
    (first : Taken contents reader data middle)
    (second : Taken contents middle more after) :
    Taken contents reader (data ++ more) after where
  rest := by rw [List.append_assoc, second.rest, first.rest]
  place := by rw [second.place, first.place, List.length_append, Nat.add_assoc]
  loaded := by
    intro place element held
    rcases second.loaded place element held with before | inFile
    · exact first.loaded place element before
    · exact .inr inFile

theorem taken_consume (count : Nat) :
    Taken contents reader (reader.buffer.take count) (reader.consume count) where
  rest := by
    rw [BufReader.rest, BufReader.rest, ← List.append_assoc]
    simp only [consume, List.take_append_drop]
  place := by
    have fits := reader.fits
    simp only [consume, BufReader.place, List.length_drop, List.length_take]
    omega
  loaded := by
    intro place element held
    have fits := reader.fits
    unfold BufReader.loaded at held
    split at held
    · next behind =>
        simp only [consume, BufReader.place, List.length_drop, List.getElem?_drop]
          at held behind
        left
        rw [BufReader.loaded, if_pos (by rw [BufReader.place]; omega), ← held]
        rcases Nat.le_total count reader.buffer.length with less | more
        · congr 1
          rw [BufReader.place]
          omega
        · rw [List.getElem?_eq_none (by rw [BufReader.place]; omega),
            List.getElem?_eq_none (by omega)]
    · cases held

theorem taken_fillBuf : Taken contents reader [] (reader.fillBuf capacity contents) := by
  unfold fillBuf
  split
  · next empty =>
      refine ⟨?_, by simp [BufReader.place, empty], ?_⟩
      · simp only [BufReader.rest, empty, List.nil_append, List.length_take, ← List.drop_drop]
        rcases Nat.le_total capacity (contents.drop reader.position).length with less | more
        · rw [Nat.min_eq_left less, List.take_append_drop]
        · rw [Nat.min_eq_right more, List.take_of_length_le more, List.drop_length,
            List.append_nil]
      · intro place element held
        right
        simp only [BufReader.loaded, BufReader.place, Nat.add_sub_cancel] at held
        split at held
        · next behind =>
            rw [List.getElem?_take, List.getElem?_drop, Nat.add_sub_cancel' behind] at held
            split at held
            · exact held
            · cases held
        · cases held
  · exact .refl reader

/-- One read takes no more than it is asked for, and nothing only where nothing is left. -/
theorem taken_read
    (capacity : Nat)
    (contents : List α)
    (reader : BufReader α)
    (length : Nat) :
    Taken contents reader (reader.read capacity contents length).1
        (reader.read capacity contents length).2 ∧
      (reader.read capacity contents length).1.length ≤ length ∧
      ((reader.read capacity contents length).1 = [] → 0 < length → reader.rest contents = []) := by
  unfold read
  split
  · next past =>
      refine ⟨⟨?_, by simp [BufReader.place, past.1], ?_⟩, List.length_take_le _ _, ?_⟩
      · simp only [BufReader.rest, past.1, List.nil_append, List.length_take, ← List.drop_drop]
        rcases Nat.le_total length (contents.drop reader.position).length with less | more
        · rw [Nat.min_eq_left less, List.take_append_drop]
        · rw [Nat.min_eq_right more, List.take_of_length_le more, List.drop_length,
            List.append_nil]
      · intro place element held
        simp [BufReader.loaded] at held
      · intro nothing positive
        rw [List.take_eq_nil_iff] at nothing
        rcases nothing with none | nothing
        · omega
        · rw [BufReader.rest, past.1, nothing, List.append_nil]
  · next within =>
      refine ⟨?_, List.length_take_le _ _, ?_⟩
      · have filled : Taken contents reader [] (reader.fillBuf capacity contents) :=
          taken_fillBuf
        have both := filled.trans (taken_consume length)
        rwa [List.nil_append] at both
      · intro nothing positive
        rw [List.take_eq_nil_iff] at nothing
        rcases nothing with none | nothing
        · omega
        · unfold fillBuf at nothing
          split at nothing
          · next empty =>
              rcases List.take_eq_nil_iff.mp nothing with none | nothing
              · exact absurd ⟨empty, by omega⟩ within
              · rw [BufReader.rest, empty, nothing, List.append_nil]
          · next full => exact absurd nothing full

/-- Reading exactly some elements succeeds where they are left, and takes what is left of
them in any case. -/
theorem readLoop_spec
    {turns length : Nat}
    (enough : length ≤ turns)
    (reader : BufReader α) :
    (readLoop capacity contents turns length reader).1 =
        (if length ≤ (reader.rest contents).length then some ((reader.rest contents).take length)
        else none) ∧
      Taken contents reader ((reader.rest contents).take length)
        (readLoop capacity contents turns length reader).2 := by
  induction turns generalizing length reader with
  | zero =>
      obtain rfl := Nat.le_zero.mp enough
      exact ⟨by simp [readLoop], by simpa [readLoop] using Taken.refl reader⟩
  | succ turns inductionHypothesis =>
      cases length with
      | zero => exact ⟨by simp [readLoop], by simpa [readLoop] using Taken.refl reader⟩
      | succ length =>
          obtain ⟨taken, atMost, last⟩ := taken_read capacity contents reader (length + 1)
          rw [readLoop]
          split
          · next after is =>
              rw [is] at taken last
              have nothing := last rfl (Nat.succ_pos length)
              simpa [nothing] using taken
          · next data after more is =>
              rw [is] at taken atMost
              have left : reader.rest contents = data ++ after.rest contents := taken.rest.symm
              have positive : 0 < data.length := List.length_pos_iff.mpr more
              have fewer : length + 1 - data.length ≤ turns := by omega
              obtain ⟨result, others⟩ := inductionHypothesis fewer after
              have front : (reader.rest contents).take (length + 1) =
                  data ++ (after.rest contents).take (length + 1 - data.length) := by
                rw [left, List.take_append, List.take_of_length_le atMost]
              refine ⟨?_, front ▸ taken.trans others⟩
              dsimp only
              rw [result, front, left, List.length_append]
              rcases Nat.lt_or_ge (data.length + (after.rest contents).length) (length + 1)
                with short | enough
              · rw [if_neg (by omega), if_neg (by omega), Option.map_none]
              · rw [if_pos enough, if_pos (by omega), Option.map_some]

/-- `read_exact` gives the elements asked for where they are left, and takes what is left of
them in any case. -/
theorem readExact_spec
    (capacity : Nat)
    (contents : List α)
    (reader : BufReader α)
    (length : Nat) :
    (reader.readExact capacity contents length).1 =
        (if length ≤ (reader.rest contents).length then some ((reader.rest contents).take length)
        else none) ∧
      Taken contents reader ((reader.rest contents).take length)
        (reader.readExact capacity contents length).2 := by
  unfold readExact
  split
  · next held =>
      have front : (reader.rest contents).take length = reader.buffer.take length :=
        List.take_append_of_le_length held
      rw [front, if_pos (by rw [BufReader.rest, List.length_append]; omega)]
      exact ⟨rfl, taken_consume length⟩
  · exact readLoop_spec (Nat.le_refl length) reader

end BufReader

end Lib
end OneDesk
