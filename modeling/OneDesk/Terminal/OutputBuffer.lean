import Mathlib.Algebra.GroupWithZero.Nat
import Mathlib.Logic.Function.Iterate
import OneDesk.Lib.Lines
import OneDesk.Lib.Run

/-!
# The output buffer of a terminal

What a terminal has written is kept in `src/server/terminal_service.rs` as lines, so
that it can be shown again after a reconnection.  Old lines are trimmed when the
counted size or the count of the lines is too large.  Sizes are numbers of type
`usize`, to which nothing that fits in memory adds up.
-/

namespace OneDesk
namespace Terminal

open Lib

/-- `MAX_OUTPUT_BUFFER_SIZE`. -/
def maxOutputBufferSize : Nat := 1024 * 1024

/-- `MAX_BUFFER_LINES`. -/
def maxBufferLines : Nat := 10000

/-- `'\n'`. -/
def newline : UInt8 := 10

/-- The output of a terminal session. -/
structure OutputBuffer where
  lines : List (List UInt8)
  totalSize : Nat
  lastLineIncomplete : Bool
  deriving DecidableEq

namespace OutputBuffer

def new : OutputBuffer where
  lines := []
  totalSize := 0
  lastLineIncomplete := false

/-- One turn of the loop over the pieces between the newlines. -/
def pushPiece
    (count : Nat)
    (endsWithNewline : Bool)
    (buffer : OutputBuffer)
    (piece : List UInt8 × Nat) : OutputBuffer :=
  let (line, i) := piece
  let buffer :=
    if i = count - 1 ∧ !endsWithNewline ∧ line ≠ [] then
      { buffer with lastLineIncomplete := true }
    else buffer
  if line ≠ [] ∨ i < count - 1 then
    let lineData := if i < count - 1 ∨ endsWithNewline then line ++ [newline] else line
    { buffer with
      totalSize := buffer.totalSize + lineData.length
      lines := buffer.lines ++ [lineData] }
  else buffer

/-- Split by lines and push each of them. -/
def pushLines (buffer : OutputBuffer) (remaining : List UInt8) : OutputBuffer :=
  let endsWithNewline := remaining.getLast? == some newline
  let lines := remaining.splitOn newline
  lines.zipIdx.foldl (pushPiece lines.length endsWithNewline) buffer

/-- The buffer is too large. -/
def Overfull (buffer : OutputBuffer) : Prop :=
  maxOutputBufferSize < buffer.totalSize ∨ maxBufferLines < buffer.lines.length

instance (buffer : OutputBuffer) : Decidable buffer.Overfull :=
  inferInstanceAs (Decidable (_ ∨ _))

/-- The trim loop over the lines from the front.  There is no result when the size of a line is
more than the counted size, or when no line is left and the counted size is still too large. -/
def trimLines (flag : Bool) : List (List UInt8) → Nat → Option OutputBuffer
  | [], totalSize =>
      if Overfull ⟨[], totalSize, flag⟩ then none else some ⟨[], totalSize, flag⟩
  | removed :: rest, totalSize =>
      if Overfull ⟨removed :: rest, totalSize, flag⟩ then
        if removed.length ≤ totalSize then trimLines flag rest (totalSize - removed.length)
        else none
      else some ⟨removed :: rest, totalSize, flag⟩

/-- Trim old data while the buffer is too large. -/
def trim (buffer : OutputBuffer) : Option OutputBuffer :=
  trimLines buffer.lastLineIncomplete buffer.lines buffer.totalSize

/-- Take over some output: go on with an unfinished line, push the lines that follow it and
trim.  Output without a newline that goes on with a line is not trimmed. -/
def append (buffer : OutputBuffer) (data : List UInt8) : Option OutputBuffer :=
  if data = [] then some buffer
  else
    match buffer.lastLineIncomplete, buffer.lines.getLast? with
    | true, some lastLine =>
        match data.findIdx? (· == newline) with
        | some newlinePos =>
            (pushLines
              { buffer with
                lines := buffer.lines.dropLast ++ [lastLine ++ data.take (newlinePos + 1)]
                lastLineIncomplete := false }
              (data.drop (newlinePos + 1))).trim
        | none =>
            some
              { buffer with
                lines := buffer.lines.dropLast ++ [lastLine ++ data]
                totalSize := buffer.totalSize + data.length }
    | _, _ => (buffer.pushLines data).trim

/-- The loop of `getRecent` over the lines from the back. -/
def collectRecent (maxBytes : Nat) :
    List (List UInt8) → Nat → List UInt8 → List UInt8
  | [], _, result => result
  | line :: earlier, size, result =>
      if maxBytes < size + line.length then result
      else collectRecent maxBytes earlier (size + line.length) (line ++ result)

/-- The recent lines, up to a count of bytes. -/
def getRecent (buffer : OutputBuffer) (maxBytes : Nat) : List UInt8 :=
  collectRecent maxBytes buffer.lines.reverse 0 []

section Push

variable (buffer : OutputBuffer)

/-- All pieces but the last one end in a newline. -/
theorem foldl_pushPiece
    (count : Nat)
    (endsWithNewline : Bool)
    (pieces : List (List UInt8))
    (first : Nat)
    (before : first + pieces.length < count) :
    (pieces.zipIdx first).foldl (pushPiece count endsWithNewline) buffer =
      { buffer with
        lines := buffer.lines ++ pieces.map (· ++ [newline])
        totalSize := buffer.totalSize + (pieces.map (· ++ [newline])).flatten.length } := by
  induction pieces generalizing buffer first with
  | nil => simp
  | cons piece pieces inductionHypothesis =>
      rw [List.length_cons] at before
      have notLast : first ≠ count - 1 := by omega
      have inFront : first < count - 1 := by omega
      have pushed : pushPiece count endsWithNewline buffer (piece, first) =
          { buffer with
            lines := buffer.lines ++ [piece ++ [newline]]
            totalSize := buffer.totalSize + (piece ++ [newline]).length } := by
        simp [pushPiece, notLast, inFront]
      rw [List.zipIdx_cons, List.foldl_cons, pushed, inductionHypothesis _ _ (by omega)]
      simp [Nat.add_assoc, Nat.add_comm]

/-- The last piece is a line unless nothing follows the last newline. -/
theorem pushPiece_last
    {last : List UInt8}
    (some : last ≠ [])
    (index : Nat) :
    buffer.pushPiece (index + 1) false (last, index) =
      { lines := buffer.lines ++ [last]
        totalSize := buffer.totalSize + last.length
        lastLineIncomplete := true } := by
  simp [pushPiece, some]

/-- The lines of some output are pushed one by one, and an unfinished one is noted. -/
theorem pushLines_eq (remaining : List UInt8) :
    buffer.pushLines remaining =
      { lines := buffer.lines ++ linesOf newline remaining
        totalSize := buffer.totalSize + remaining.length
        lastLineIncomplete :=
          buffer.lastLineIncomplete || !decide (Finished newline remaining) } := by
  obtain ⟨pieces, last, split, _, isFinished, lines⟩ := linesOf_splitOn newline remaining
  have whole := flatten_linesOf newline remaining
  have length := congrArg List.length whole
  rw [lines, List.flatten_append, List.length_append] at length
  have zipped : (pieces ++ [last]).zipIdx = pieces.zipIdx ++ [(last, pieces.length)] := by
    rw [List.zipIdx_append, Nat.zero_add]
    rfl
  have folded := foldl_pushPiece buffer (pieces.length + 1) (remaining.getLast? == some newline)
    pieces 0 (by omega)
  simp only [pushLines, split, zipped, List.foldl_append, List.foldl_cons, List.foldl_nil,
    List.length_append, List.length_singleton, folded]
  by_cases none : last = []
  · rw [if_pos none, List.flatten_nil, List.length_nil, Nat.add_zero] at length
    rw [if_pos none, List.append_nil] at lines
    simp only [length, lines, decide_eq_true (isFinished.mp none), Bool.not_true, Bool.or_false]
    simp [pushPiece, none]
  · have notFinished : ¬Finished newline remaining := fun finished => none (isFinished.mpr finished)
    have notEnded : (remaining.getLast? == some newline) = false := by
      simpa using fun ends => notFinished (.inr ends)
    rw [if_neg none, List.flatten_singleton] at length
    rw [if_neg none] at lines
    rw [notEnded, pushPiece_last _ none]
    simp only [lines, ← length, List.append_assoc, Nat.add_assoc, decide_eq_false notFinished,
      Bool.not_false, Bool.or_true]

end Push

/-- A call goes on with an unfinished line. -/
def Continues (buffer : OutputBuffer) : Prop :=
  buffer.lastLineIncomplete = true ∧ buffer.lines ≠ []

instance (buffer : OutputBuffer) : Decidable buffer.Continues :=
  inferInstanceAs (Decidable (_ ∧ _))

section Append

variable {buffer : OutputBuffer}

@[simp] theorem append_nil (buffer : OutputBuffer) : buffer.append [] = some buffer :=
  if_pos rfl

/-- Output without a newline only makes an unfinished line longer. -/
theorem append_extend
    {last data : List UInt8}
    (incomplete : buffer.lastLineIncomplete = true)
    (isLast : buffer.lines.getLast? = some last)
    (some : data ≠ [])
    (notIn : newline ∉ data) :
    buffer.append data =
      .some
        { buffer with
          lines := buffer.lines.dropLast ++ [last ++ data]
          totalSize := buffer.totalSize + data.length } := by
  have nowhere : data.findIdx? (· == newline) = none := by
    rw [List.findIdx?_eq_none_iff]
    intro byte member
    simpa using fun same : byte = newline => notIn (same ▸ member)
  simp only [append, if_neg some, incomplete, isLast, nowhere]

/-- Output with a newline ends an unfinished line: what ends it is not counted. -/
theorem append_complete
    {last head : List UInt8}
    (incomplete : buffer.lastLineIncomplete = true)
    (isLast : buffer.lines.getLast? = some last)
    (notIn : newline ∉ head)
    (rest : List UInt8) :
    buffer.append (head ++ newline :: rest) =
      trim
        { lines := buffer.lines.dropLast ++ [last ++ (head ++ [newline])] ++ linesOf newline rest
          totalSize := buffer.totalSize + rest.length
          lastLineIncomplete := !decide (Finished newline rest) } := by
  have found : (head ++ newline :: rest).findIdx? (· == newline) = some head.length := by
    rw [List.findIdx?_eq_some_iff_getElem]
    refine ⟨by simp, by simp, fun earlier before => ?_⟩
    rw [List.getElem_append_left before]
    simpa using fun same : head[earlier] = newline => notIn (same ▸ List.getElem_mem before)
  have front : (head ++ newline :: rest).take (head.length + 1) = head ++ [newline] := by
    rw [List.take_length_add_append]
    rfl
  have back : (head ++ newline :: rest).drop (head.length + 1) = rest := by
    rw [List.drop_length_add_append]
    rfl
  have some : head ++ newline :: rest ≠ [] :=
    List.append_ne_nil_of_right_ne_nil _ (List.cons_ne_nil _ _)
  simp only [append, if_neg some, incomplete, isLast, found, front, back, pushLines_eq,
    Bool.false_or]

/-- Output that goes on with no line is pushed. -/
theorem append_push
    {data : List UInt8}
    (some : data ≠ [])
    (starts : ¬buffer.Continues) :
    buffer.append data =
      trim
        { lines := buffer.lines ++ linesOf newline data
          totalSize := buffer.totalSize + data.length
          lastLineIncomplete :=
            buffer.lastLineIncomplete || !decide (Finished newline data) } := by
  rw [append, if_neg some, ← pushLines_eq]
  split
  · next last incomplete isLast =>
      refine absurd ⟨incomplete, ?_⟩ starts
      rintro none
      simp [none] at isLast
  · rfl

end Append

/-- The sum of the lengths of the stored lines. -/
def storedSize (buffer : OutputBuffer) : Nat :=
  (buffer.lines.map List.length).sum

/-- What is stored, as one text. -/
def text (buffer : OutputBuffer) : List UInt8 :=
  buffer.lines.flatten

theorem storedSize_eq (buffer : OutputBuffer) : buffer.storedSize = buffer.text.length :=
  List.length_flatten.symm

/-- The counted size is the size. -/
def Exact (buffer : OutputBuffer) : Prop :=
  buffer.totalSize = buffer.storedSize

instance (buffer : OutputBuffer) : Decidable buffer.Exact :=
  inferInstanceAs (Decidable (_ = _))

/-- What trimming does: some lines are taken from the front, each of them because the buffer is
still too large. -/
structure Trimmed (before after : OutputBuffer) (count : Nat) : Prop where
  inside : count ≤ before.lines.length
  lines : after.lines = before.lines.drop count
  size : after.totalSize + (before.lines.take count).flatten.length = before.totalSize
  flag : after.lastLineIncomplete = before.lastLineIncomplete
  fits : ¬after.Overfull
  needed : ∀ earlier < count, ∃ size,
    size + (before.lines.take earlier).flatten.length = before.totalSize ∧
      Overfull ⟨before.lines.drop earlier, size, before.lastLineIncomplete⟩

section Trim

variable {buffer after : OutputBuffer} {count : Nat}

theorem trimLines_trimmed
    {flag : Bool}
    {lines : List (List UInt8)}
    {total : Nat}
    (trimmed : trimLines flag lines total = some after) :
    ∃ count, Trimmed ⟨lines, total, flag⟩ after count := by
  induction lines generalizing total with
  | nil =>
      by_cases overfull : Overfull ⟨[], total, flag⟩
      · simp [trimLines, overfull] at trimmed
      · simp only [trimLines, if_neg overfull, Option.some.injEq] at trimmed
        subst trimmed
        exact ⟨0, Nat.le_refl 0, rfl, rfl, rfl, overfull, fun _ before => by omega⟩
  | cons removed rest inductionHypothesis =>
      by_cases overfull : Overfull ⟨removed :: rest, total, flag⟩
      · by_cases counted : removed.length ≤ total
        · simp only [trimLines, if_pos overfull, if_pos counted] at trimmed
          obtain ⟨count, more⟩ := inductionHypothesis trimmed
          refine ⟨count + 1, Nat.succ_le_succ more.inside, more.lines, ?_, more.flag, more.fits, ?_⟩
          · have size := more.size
            simp only [List.take_succ_cons, List.flatten_cons, List.length_append] at size ⊢
            omega
          · intro earlier before
            cases earlier with
            | zero => exact ⟨total, rfl, overfull⟩
            | succ earlier =>
                obtain ⟨size, taken, still⟩ := more.needed earlier (by omega)
                refine ⟨size, ?_, still⟩
                simp only [List.take_succ_cons, List.flatten_cons, List.length_append] at taken ⊢
                omega
        · simp [trimLines, overfull, counted] at trimmed
      · simp only [trimLines, if_neg overfull, Option.some.injEq] at trimmed
        subst trimmed
        exact ⟨0, Nat.zero_le _, rfl, rfl, rfl, overfull, fun _ before => by omega⟩

theorem trim_trimmed (trimmed : buffer.trim = some after) : ∃ count, Trimmed buffer after count :=
  trimLines_trimmed trimmed

/-- What is stored of the trimmed lines and of the others. -/
theorem Trimmed.stored (trimmed : Trimmed buffer after count) :
    after.storedSize + (buffer.lines.take count).flatten.length = buffer.storedSize := by
  have parts := congrArg (fun lines => (List.flatten lines).length)
    (List.take_append_drop count buffer.lines)
  simp only [List.flatten_append, List.length_append] at parts
  rw [storedSize_eq, storedSize_eq, text, text, trimmed.lines]
  omega

/-- Trimming leaves what is not counted. -/
theorem Trimmed.gap (trimmed : Trimmed buffer after count) :
    after.totalSize + buffer.storedSize = buffer.totalSize + after.storedSize := by
  have size := trimmed.size
  have stored := trimmed.stored
  omega

/-- A buffer that counts its size is trimmed. -/
theorem trim_of_exact (exact : buffer.Exact) : ∃ after, buffer.trim = some after := by
  obtain ⟨lines, total, flag⟩ := buffer
  simp only [Exact, storedSize] at exact
  rw [trim]
  induction lines generalizing total with
  | nil => exact ⟨⟨[], total, flag⟩, by simp [trimLines, Overfull, exact]⟩
  | cons removed rest inductionHypothesis =>
      rw [List.map_cons, List.sum_cons] at exact
      by_cases overfull : Overfull ⟨removed :: rest, total, flag⟩
      · have counted : removed.length ≤ total := by omega
        simp only [trimLines, if_pos overfull, if_pos counted]
        exact inductionHypothesis _ (by omega)
      · exact ⟨⟨removed :: rest, total, flag⟩, by simp only [trimLines, if_neg overfull]⟩

end Trim

/-- One turn of the trim loop in a build without overflow checks: a difference below zero wraps
around, and nothing happens without a line. -/
def trimTurn (buffer : OutputBuffer) : OutputBuffer :=
  match buffer.lines with
  | [] => buffer
  | removed :: rest =>
      { buffer with
        lines := rest
        totalSize :=
          if removed.length ≤ buffer.totalSize then buffer.totalSize - removed.length
          else buffer.totalSize + 2 ^ 64 - removed.length }

section Loop

/-- The result of trimming is where the loop ends. -/
theorem trim_some_loop
    {buffer after : OutputBuffer}
    (trimmed : buffer.trim = some after) :
    ∃ turns, trimTurn^[turns] buffer = after ∧ ¬after.Overfull ∧
      ∀ earlier < turns, (trimTurn^[earlier] buffer).Overfull := by
  obtain ⟨lines, total, flag⟩ := buffer
  rw [trim] at trimmed
  induction lines generalizing total with
  | nil =>
      by_cases overfull : Overfull ⟨[], total, flag⟩
      · simp [trimLines, overfull] at trimmed
      · simp only [trimLines, if_neg overfull, Option.some.injEq] at trimmed
        subst trimmed
        exact ⟨0, rfl, overfull, fun _ before => by omega⟩
  | cons removed rest inductionHypothesis =>
      by_cases overfull : Overfull ⟨removed :: rest, total, flag⟩
      · by_cases counted : removed.length ≤ total
        · simp only [trimLines, if_pos overfull, if_pos counted] at trimmed
          obtain ⟨turns, ends, fits, still⟩ := inductionHypothesis _ trimmed
          have turned : trimTurn ⟨removed :: rest, total, flag⟩ =
              ⟨rest, total - removed.length, flag⟩ := by
            simp [trimTurn, counted]
          refine ⟨turns + 1, ?_, fits, fun earlier before => ?_⟩
          · rw [Function.iterate_succ_apply, turned]
            exact ends
          · cases earlier with
            | zero => exact overfull
            | succ earlier =>
                rw [Function.iterate_succ_apply, turned]
                exact still earlier (by omega)
        · simp [trimLines, overfull, counted] at trimmed
      · simp only [trimLines, if_neg overfull, Option.some.injEq] at trimmed
        subst trimmed
        exact ⟨0, rfl, overfull, fun _ before => by omega⟩

/-- A counted size that is far too large stays too large until no line is left, and then. -/
theorem loop_of_overcounted
    {buffer : OutputBuffer}
    (overcounted : buffer.storedSize + maxOutputBufferSize < buffer.totalSize)
    (turns : Nat) :
    (trimTurn^[turns] buffer).Overfull := by
  induction turns generalizing buffer with
  | zero =>
      rw [Function.iterate_zero_apply]
      left
      omega
  | succ turns inductionHypothesis =>
      rw [Function.iterate_succ_apply]
      refine inductionHypothesis ?_
      obtain ⟨lines, total, flag⟩ := buffer
      cases lines with
      | nil => exact overcounted
      | cons removed rest =>
          have counted : removed.length ≤ total := by
            simp only [storedSize, List.map_cons, List.sum_cons] at overcounted
            omega
          simp only [storedSize, trimTurn, if_pos counted, List.map_cons, List.sum_cons]
            at overcounted ⊢
          omega

/-- Without a result of trimming the loop never ends, as far as what is stored fits in memory. -/
theorem trim_none_loop
    {buffer : OutputBuffer}
    (untrimmed : buffer.trim = none)
    (inMemory : buffer.storedSize + maxOutputBufferSize < 2 ^ 64)
    (turns : Nat) :
    (trimTurn^[turns] buffer).Overfull := by
  obtain ⟨lines, total, flag⟩ := buffer
  rw [trim] at untrimmed
  induction lines generalizing total turns with
  | nil =>
      by_cases overfull : Overfull ⟨[], total, flag⟩
      · refine loop_of_overcounted ?_ turns
        rcases overfull with large | many
        · simpa [storedSize] using large
        · simp at many
      · simp [trimLines, overfull] at untrimmed
  | cons removed rest inductionHypothesis =>
      by_cases overfull : Overfull ⟨removed :: rest, total, flag⟩
      · cases turns with
        | zero => exact overfull
        | succ turns =>
            rw [Function.iterate_succ_apply]
            simp only [storedSize, List.map_cons, List.sum_cons] at inMemory
            by_cases counted : removed.length ≤ total
            · simp only [trimLines, if_pos overfull, if_pos counted] at untrimmed
              simp only [trimTurn, if_pos counted]
              refine inductionHypothesis turns _ untrimmed ?_
              simp only [storedSize]
              omega
            · refine loop_of_overcounted ?_ turns
              simp only [trimTurn, if_neg counted, storedSize]
              omega
      · simp [trimLines, overfull] at untrimmed

end Loop

/-- A call brings the newline that ends an unfinished line. -/
def Completes (buffer : OutputBuffer) (data : List UInt8) : Prop :=
  buffer.Continues ∧ newline ∈ data

instance (buffer : OutputBuffer) (data : List UInt8) : Decidable (buffer.Completes data) :=
  inferInstanceAs (Decidable (_ ∧ _))

section Size

variable {buffer after : OutputBuffer} {data : List UInt8}

theorem Continues.exists_last (continues : buffer.Continues) :
    ∃ last, buffer.lines.getLast? = some last ∧
      buffer.storedSize = buffer.lines.dropLast.flatten.length + last.length := by
  obtain ⟨_, some⟩ := continues
  refine ⟨_, List.getLast?_eq_some_getLast some, ?_⟩
  rw [storedSize_eq, text]
  conv_lhs => rw [← List.dropLast_append_getLast some]
  rw [List.flatten_append, List.flatten_singleton, List.length_append]

/-- A call that ends no unfinished line counts what it adds. -/
theorem append_gap
    (appended : buffer.append data = some after)
    (counts : ¬buffer.Completes data) :
    after.totalSize + buffer.storedSize = buffer.totalSize + after.storedSize := by
  by_cases none : data = []
  · rw [none, append_nil, Option.some.injEq] at appended
    rw [appended]
  · by_cases continues : buffer.Continues
    · have notIn : newline ∉ data := fun member => counts ⟨continues, member⟩
      obtain ⟨last, isLast, whole⟩ := continues.exists_last
      rw [append_extend continues.1 isLast none notIn, Option.some.injEq] at appended
      subst appended
      rw [whole, storedSize_eq]
      simp only [text, List.flatten_append, List.flatten_singleton, List.length_append]
      omega
    · rw [append_push none continues] at appended
      obtain ⟨count, trimmed⟩ := trim_trimmed appended
      have gap := trimmed.gap
      simp only [storedSize_eq, text, List.flatten_append, flatten_linesOf,
        List.length_append] at gap ⊢
      omega

/-- A call that ends an unfinished line adds more than it counts. -/
theorem append_gap_of_completes
    (appended : buffer.append data = some after)
    (completes : buffer.Completes data) :
    after.totalSize + buffer.storedSize < buffer.totalSize + after.storedSize := by
  obtain ⟨continues, member⟩ := completes
  obtain ⟨head, rest, rfl, notIn⟩ := List.eq_append_cons_of_mem member
  obtain ⟨last, isLast, whole⟩ := continues.exists_last
  rw [append_complete continues.1 isLast notIn] at appended
  obtain ⟨count, trimmed⟩ := trim_trimmed appended
  have gap := trimmed.gap
  rw [storedSize_eq] at gap
  simp only [text, List.flatten_append, List.flatten_singleton, flatten_linesOf,
    List.length_append, List.length_singleton] at gap
  omega

/-- A call that ends no unfinished line keeps the counted size exact, and comes to an end. -/
theorem append_exact
    (exact : buffer.Exact)
    (counts : ¬buffer.Completes data) :
    ∃ after, buffer.append data = some after ∧ after.Exact := by
  have returns : ∃ after, buffer.append data = some after := by
    by_cases none : data = []
    · exact ⟨buffer, by rw [none, append_nil]⟩
    · by_cases continues : buffer.Continues
      · have notIn : newline ∉ data := fun member => counts ⟨continues, member⟩
        obtain ⟨last, isLast, _⟩ := continues.exists_last
        exact ⟨_, append_extend continues.1 isLast none notIn⟩
      · rw [append_push none continues]
        refine trim_of_exact ?_
        simp only [Exact, storedSize_eq, text] at exact
        simp only [Exact, storedSize_eq, text, List.flatten_append, flatten_linesOf,
          List.length_append, exact]
  obtain ⟨after, appended⟩ := returns
  refine ⟨after, appended, ?_⟩
  have gap := append_gap appended counts
  rw [Exact] at exact ⊢
  omega

end Size

/-- One call after others, the last of which may never have come to an end. -/
def feed (buffer : Option OutputBuffer) (data : List UInt8) : Option OutputBuffer :=
  buffer.bind fun buffer => buffer.append data

/-- A condition on each call of a run that is made at all. -/
abbrev Calls (condition : OutputBuffer → List UInt8 → Prop) (chunks : List (List UInt8)) : Prop :=
  Along feed (fun buffer data => ∀ before, buffer = some before → condition before data)
    (some new) chunks

/-- Every call comes to an end and leaves the counted size exact if and only if no call brings
the newline that ends an unfinished line. -/
theorem exact_iff_no_line_completed (chunks : List (List UInt8)) :
    Calls (fun buffer data => ∃ after, buffer.append data = some after ∧ after.Exact) chunks ↔
      Calls (fun buffer data => ¬buffer.Completes data) chunks := by
  have fromHere : ∀ chunks (buffer : OutputBuffer), buffer.Exact →
      (Along feed (fun buffer data => ∀ before, buffer = some before →
          ∃ after, before.append data = some after ∧ after.Exact) (some buffer) chunks ↔
        Along feed (fun buffer data => ∀ before, buffer = some before →
          ¬before.Completes data) (some buffer) chunks) := by
    intro chunks
    induction chunks with
    | nil => exact fun _ _ => Iff.rfl
    | cons data chunks inductionHypothesis =>
        intro buffer exact
        simp only [along_cons, Option.some.injEq, forall_eq']
        constructor
        · rintro ⟨⟨after, appended, afterExact⟩, rest⟩
          rw [feed, Option.bind_some, appended] at rest ⊢
          refine ⟨fun completes => ?_, (inductionHypothesis after afterExact).mp rest⟩
          have gap := append_gap_of_completes appended completes
          rw [Exact] at exact afterExact
          omega
        · rintro ⟨counts, rest⟩
          obtain ⟨after, appended, afterExact⟩ := append_exact exact counts
          rw [feed, Option.bind_some, appended] at rest ⊢
          exact ⟨⟨after, rfl, afterExact⟩, (inductionHypothesis after afterExact).mpr rest⟩
  exact fromHere chunks new rfl

/-- The newline that ends `a` is not counted. -/
theorem newline_not_counted :
    run feed (some new) [[97], [10]] = some ⟨[[97, 10]], 1, false⟩ ∧
      (⟨[[97, 10]], 1, false⟩ : OutputBuffer).storedSize = 2 := by
  decide

/-- What a buffer should hold at most. -/
structure Bounded (buffer : OutputBuffer) : Prop where
  size : buffer.storedSize ≤ maxOutputBufferSize
  lines : buffer.lines.length ≤ maxBufferLines

/-- The counted size is right and a new line begins, or everything fits anyway. -/
def Roomy (buffer : OutputBuffer) (data : List UInt8) : Prop :=
  (buffer.Exact ∧ ¬buffer.Continues) ∨
    buffer.storedSize + data.length ≤ maxOutputBufferSize

instance (buffer : OutputBuffer) (data : List UInt8) : Decidable (buffer.Roomy data) :=
  inferInstanceAs (Decidable (_ ∨ _))

section Bound

variable {buffer after : OutputBuffer} {data : List UInt8}

/-- A trimmed buffer is small if all that it trims is counted or would have been small. -/
theorem Trimmed.bounded
    {count : Nat}
    (trimmed : Trimmed buffer after count)
    (small : buffer.Exact ∨ buffer.storedSize ≤ maxOutputBufferSize) :
    after.Bounded := by
  have fits := trimmed.fits
  have gap := trimmed.gap
  have stored := trimmed.stored
  rw [Overfull, not_or, Nat.not_lt, Nat.not_lt] at fits
  refine ⟨?_, fits.2⟩
  rcases small with exact | fitsAnyway
  · rw [Exact] at exact
    omega
  · omega

theorem append_bounded
    (bounded : buffer.Bounded)
    (roomy : buffer.Roomy data)
    (appended : buffer.append data = some after) :
    after.Bounded := by
  by_cases none : data = []
  · rw [none, append_nil, Option.some.injEq] at appended
    rwa [← appended]
  · by_cases continues : buffer.Continues
    · have fits : buffer.storedSize + data.length ≤ maxOutputBufferSize :=
        roomy.resolve_left fun begins => begins.2 continues
      obtain ⟨last, isLast, whole⟩ := continues.exists_last
      by_cases member : newline ∈ data
      · obtain ⟨head, rest, rfl, notIn⟩ := List.eq_append_cons_of_mem member
        rw [append_complete continues.1 isLast notIn] at appended
        obtain ⟨count, trimmed⟩ := trim_trimmed appended
        refine trimmed.bounded (.inr ?_)
        rw [storedSize_eq]
        simp only [text, List.flatten_append, List.flatten_singleton, flatten_linesOf,
          List.length_append, List.length_cons, List.length_nil] at fits ⊢
        omega
      · rw [append_extend continues.1 isLast none member, Option.some.injEq] at appended
        subst appended
        refine ⟨?_, ?_⟩
        · rw [storedSize_eq]
          simp only [text, List.flatten_append, List.flatten_singleton, List.length_append]
          omega
        · have some := List.length_pos_iff.mpr continues.2
          have lines := bounded.lines
          simp only [List.length_append, List.length_dropLast, List.length_singleton]
          omega
    · rw [append_push none continues] at appended
      obtain ⟨count, trimmed⟩ := trim_trimmed appended
      refine trimmed.bounded ?_
      have size : (buffer.lines ++ linesOf newline data).flatten.length =
          buffer.storedSize + data.length := by
        rw [storedSize_eq, List.flatten_append, flatten_linesOf, List.length_append, text]
      rcases roomy with ⟨exact, _⟩ | fits
      · left
        rw [Exact, storedSize_eq, text, size, exact]
      · right
        rw [storedSize_eq, text, size]
        exact fits

end Bound

/-- A property of the last state of a run of calls, by the calls one after the other. -/
theorem calls_induction
    {condition : OutputBuffer → List UInt8 → Prop}
    {motive : OutputBuffer → List UInt8 → Prop}
    (start : motive new [])
    (step : ∀ buffer output data after, motive buffer output → condition buffer data →
      buffer.append data = some after → motive after (output ++ data))
    {chunks : List (List UInt8)}
    (calls : Calls condition chunks)
    {buffer : OutputBuffer}
    (reached : run feed (some new) chunks = some buffer) :
    motive buffer chunks.flatten := by
  induction chunks using List.reverseRecOn generalizing buffer with
  | nil =>
      rw [run_nil, Option.some.injEq] at reached
      rw [← reached]
      exact start
  | append_singleton chunks data inductionHypothesis =>
      obtain ⟨earlier, last, _⟩ := (along_append _ chunks [data]).mp calls
      rw [run_concat, feed, Option.bind_eq_some_iff] at reached
      obtain ⟨before, isBefore, appended⟩ := reached
      rw [List.flatten_append, List.flatten_singleton]
      exact step before _ data buffer (inductionHypothesis earlier isBefore)
        (last before isBefore) appended

/-- The buffer stays bounded in a run in which every call is counted or fits. -/
theorem bounded_of_roomy
    {chunks : List (List UInt8)}
    (roomy : Calls Roomy chunks)
    {buffer : OutputBuffer}
    (reached : run feed (some new) chunks = some buffer) :
    buffer.Bounded :=
  calls_induction (motive := fun buffer _ => buffer.Bounded) ⟨Nat.zero_le _, Nat.zero_le _⟩
    (fun _ _ _ _ bounded roomy appended => append_bounded bounded roomy appended) roomy reached

/-- A line and its newline. -/
theorem bounded_of_roomy_line : Bounded ⟨[[97, 10]], 2, false⟩ :=
  @bounded_of_roomy [[97, 10]] ⟨fun _ same => by cases same; decide, trivial⟩ _ (by decide)

/-- A line of one byte goes on for as long as its output has no newline. -/
theorem run_unfinished_line
    {data : List UInt8}
    (nonempty : data ≠ [])
    (notIn : newline ∉ data) :
    run feed (some new) [[97], data] = some ⟨[[97] ++ data], 1 + data.length, true⟩ := by
  have first : feed (some new) [97] = some ⟨[[97]], 1, true⟩ := by decide
  have second : feed (some ⟨[[97]], 1, true⟩) data =
      some ⟨[[97] ++ data], 1 + data.length, true⟩ :=
    @append_extend ⟨[[97]], 1, true⟩ [97] data rfl rfl nonempty notIn
  rw [run_cons, first, run_cons, run_nil, second]

theorem not_bounded_of_long
    {data : List UInt8}
    (long : maxOutputBufferSize ≤ data.length) :
    ¬Bounded ⟨[[97] ++ data], 1 + data.length, true⟩ := by
  intro bounded
  have size := bounded.size
  rw [storedSize_eq] at size
  simp only [text, List.flatten_singleton, List.length_append, List.length_singleton] at size
  omega

/-- A line of one byte goes on for as many bytes as the buffer may hold, and is one too long. -/
theorem unfinished_line_unbounded :
    ∃ buffer, run feed (some new) [[97], List.replicate maxOutputBufferSize 97] = some buffer ∧
      ¬buffer.Bounded := by
  have nonempty : List.replicate maxOutputBufferSize (97 : UInt8) ≠ [] := by
    rw [Ne, List.replicate_eq_nil_iff]
    decide
  have notIn : newline ∉ List.replicate maxOutputBufferSize (97 : UInt8) := by
    rw [List.mem_replicate]
    rintro ⟨_, same⟩
    exact absurd same (by decide)
  have long : maxOutputBufferSize ≤ (List.replicate maxOutputBufferSize (97 : UInt8)).length := by
    rw [List.length_replicate]
  exact ⟨_, run_unfinished_line nonempty notIn, not_bounded_of_long long⟩

/-- The longest end of some lines that is not longer than asked for. -/
structure LongestTail
    (lines : List (List UInt8))
    (maxBytes : Nat)
    (recent : List UInt8) : Prop where
  tail : ∃ count, recent = (lines.drop count).flatten
  short : recent.length ≤ maxBytes
  longest : ∀ count, (lines.drop count).flatten.length ≤ maxBytes →
    (lines.drop count).flatten.length ≤ recent.length

/-- The further behind an end of some lines begins, the shorter it is. -/
theorem length_flatten_drop_le
    (lines : List (List UInt8))
    {first second : Nat}
    (behind : first ≤ second) :
    (lines.drop second).flatten.length ≤ (lines.drop first).flatten.length := by
  have parts := congrArg (fun lines => (List.flatten lines).length)
    (List.take_append_drop (second - first) (lines.drop first))
  rw [List.drop_drop, Nat.add_sub_cancel' behind] at parts
  simp only [List.flatten_append, List.length_append] at parts
  omega

/-- Lines are collected from the back as long as they are short enough. -/
theorem collectRecent_longest
    (maxBytes : Nat)
    (front back : List (List UInt8))
    (short : back.flatten.length ≤ maxBytes) :
    LongestTail (front ++ back) maxBytes
      (collectRecent maxBytes front.reverse back.flatten.length back.flatten) := by
  induction front using List.reverseRecOn generalizing back with
  | nil => exact ⟨⟨0, rfl⟩, short, fun count _ => length_flatten_drop_le back (Nat.zero_le count)⟩
  | append_singleton front line inductionHypothesis =>
      have behindLine : (front ++ [line] ++ back).drop (front.length + 1) = back := by
        rw [List.drop_left' (by simp)]
      have fromLine : (front ++ [line] ++ back).drop front.length = line :: back := by
        rw [List.append_assoc, List.drop_left]
        rfl
      rw [List.reverse_append, List.reverse_singleton, List.singleton_append, collectRecent]
      by_cases long : maxBytes < back.flatten.length + line.length
      · rw [if_pos long]
        refine ⟨⟨front.length + 1, by rw [behindLine]⟩, short, fun count fits => ?_⟩
        by_cases within : count ≤ front.length
        · have more := length_flatten_drop_le (front ++ [line] ++ back) within
          rw [fromLine, List.flatten_cons, List.length_append] at more
          omega
        · have less := length_flatten_drop_le (front ++ [line] ++ back)
            (Nat.succ_le_of_lt (Nat.lt_of_not_le within))
          rwa [behindLine] at less
      · rw [if_neg long]
        have more := inductionHypothesis (line :: back)
        rw [List.flatten_cons, List.length_append, Nat.add_comm line.length] at more
        rw [List.append_assoc]
        exact more (by omega)

/-- The recent lines are the longest end of the stored lines that is short enough. -/
theorem getRecent_longest (buffer : OutputBuffer) (maxBytes : Nat) :
    LongestTail buffer.lines maxBytes (buffer.getRecent maxBytes) := by
  have longest := collectRecent_longest maxBytes buffer.lines [] (Nat.zero_le _)
  rwa [List.append_nil] at longest

/-- The buffer is what it should be after some output: an end of it, line by line. -/
structure TrueTail (buffer : OutputBuffer) (output : List UInt8) : Prop where
  suffix : buffer.text <:+ output
  endsLine : ∀ line ∈ buffer.lines.dropLast, EndsLine newline line
  incomplete : buffer.lastLineIncomplete = true ↔
    ∃ last, buffer.lines.getLast? = some last ∧ last.getLast? ≠ some newline
  recent : ∀ maxBytes, LongestTail buffer.lines maxBytes (buffer.getRecent maxBytes)

/-- A call does not leave more behind its last newline than a buffer may hold, or it only makes
an unfinished line longer. -/
def Spares (buffer : OutputBuffer) (data : List UInt8) : Prop :=
  (buffer.Continues ∧ newline ∉ data) ∨ (unfinished newline data).length ≤ maxOutputBufferSize

instance (buffer : OutputBuffer) (data : List UInt8) : Decidable (buffer.Spares data) :=
  inferInstanceAs (Decidable (_ ∨ _))

/-- The lines are the lines of their text, the flag says whether the last one is unfinished, and
no more is counted than there is. -/
structure Canonical (buffer : OutputBuffer) : Prop where
  lines : buffer.lines = linesOf newline buffer.text
  flag : buffer.lastLineIncomplete = true ↔ ¬Finished newline buffer.text
  counted : buffer.totalSize ≤ buffer.storedSize

section Tail

variable {buffer after : OutputBuffer} {data : List UInt8}

/-- Trimming leaves an end of the text, line by line, if the last line is not too long. -/
theorem Trimmed.canonical
    {count : Nat}
    (trimmed : Trimmed buffer after count)
    (canonical : buffer.Canonical)
    (short : (unfinished newline buffer.text).length ≤ maxOutputBufferSize) :
    after.Canonical ∧ after.text <:+ buffer.text := by
  have lines : after.lines = linesOf newline after.text := by
    rw [text, trimmed.lines, canonical.lines, linesOf_flatten_drop]
  have counted : after.totalSize ≤ after.storedSize := by
    have gap := trimmed.gap
    have fewer := canonical.counted
    omega
  have suffix : after.text <:+ buffer.text := by
    refine ⟨(buffer.lines.take count).flatten, ?_⟩
    rw [text, text, trimmed.lines, ← List.flatten_append, List.take_append_drop]
  refine ⟨⟨lines, ?_, counted⟩, suffix⟩
  rw [trimmed.flag, canonical.flag, not_iff_not]
  by_cases finished : Finished newline buffer.text
  · refine ⟨fun _ => ?_, fun _ => finished⟩
    by_cases none : after.text = []
    · exact .inl none
    · right
      obtain ⟨front, whole⟩ := suffix
      rw [← whole] at finished
      rw [← List.getLast?_append_of_ne_nil front none]
      exact finished.resolve_left (List.append_ne_nil_of_right_ne_nil _ none)
  · -- The last line is never trimmed: it is not too long, and no more than it is counted.
    have lastLine := getLast?_linesOf_of_not_finished finished
    rw [← canonical.lines] at lastLine
    obtain ⟨front, isEnd⟩ := List.getLast?_eq_some_iff.mp lastLine
    have kept : count ≤ front.length := by
      by_contra beyond
      obtain ⟨size, taken, overfull⟩ := trimmed.needed front.length (Nat.lt_of_not_le beyond)
      have total := canonical.counted
      rw [storedSize_eq, text] at total
      simp only [isEnd, List.take_left, List.drop_left, List.flatten_append,
        List.flatten_singleton, List.length_append] at taken overfull total
      rcases overfull with large | many
      · simp only at large
        omega
      · simp [maxBufferLines] at many
    have some : unfinished newline buffer.text ≠ [] := fun none =>
      finished (unfinished_eq_nil.mp none)
    have ends : after.text = ((front.drop count).flatten) ++ unfinished newline buffer.text := by
      rw [text, trimmed.lines, isEnd, List.drop_append_of_le_length kept, List.flatten_append,
        List.flatten_singleton]
    have notFinished : ¬Finished newline after.text := by
      rw [ends, Finished, List.getLast?_append_of_ne_nil _ some]
      rintro (none | last)
      · exact some (List.append_eq_nil_iff.mp none).2
      · exact not_mem_unfinished (List.mem_of_getLast? last)
    exact ⟨fun whole => absurd whole finished, fun whole => absurd whole notFinished⟩

/-- A buffer with the lines of a text is canonical. -/
theorem canonical_of_lines
    (buffer : OutputBuffer)
    {whole : List UInt8}
    (lines : buffer.lines = linesOf newline whole)
    (flag : buffer.lastLineIncomplete = true ↔ ¬Finished newline whole)
    (counted : buffer.totalSize ≤ whole.length) :
    buffer.Canonical ∧ buffer.text = whole := by
  have same : buffer.text = whole := by rw [text, lines, flatten_linesOf]
  refine ⟨⟨?_, ?_, ?_⟩, same⟩
  · rw [same, lines]
  · rw [same, flag]
  · rw [storedSize_eq, same]
    exact counted

/-- A sparing call keeps an end of the text and of what it adds, line by line. -/
theorem append_canonical
    (canonical : buffer.Canonical)
    (spares : buffer.Spares data)
    (appended : buffer.append data = some after) :
    after.Canonical ∧ after.text <:+ buffer.text ++ data := by
  have counted := canonical.counted
  rw [storedSize_eq] at counted
  have total : buffer.totalSize + data.length ≤ (buffer.text ++ data).length := by
    rw [List.length_append]
    omega
  by_cases none : data = []
  · rw [none, append_nil, Option.some.injEq] at appended
    rw [none, List.append_nil, ← appended]
    exact ⟨canonical, List.suffix_refl _⟩
  · by_cases continues : buffer.Continues
    · have isUnfinished := canonical.flag.mp continues.1
      obtain ⟨last, isLast, _⟩ := continues.exists_last
      have lastLine := isLast
      rw [canonical.lines] at lastLine
      by_cases member : newline ∈ data
      · have short := spares.resolve_left fun longer => longer.2 member
        rw [← unfinished_append_of_parts buffer.text (.inr member)] at short
        obtain ⟨head, rest, rfl, notIn⟩ := List.eq_append_cons_of_mem member
        have lines := linesOf_complete isUnfinished lastLine notIn rest
        rw [← canonical.lines] at lines
        rw [append_complete continues.1 isLast notIn, ← lines] at appended
        obtain ⟨count, trimmed⟩ := trim_trimmed appended
        have ends : Finished newline (buffer.text ++ (head ++ newline :: rest)) ↔
            Finished newline rest := (finished_append none).trans finished_line
        obtain ⟨filled, same⟩ := canonical_of_lines
          ⟨linesOf newline (buffer.text ++ (head ++ newline :: rest)),
            buffer.totalSize + rest.length, !decide (Finished newline rest)⟩ rfl
          (by rw [ends]; simp) (by simp only [List.length_append, List.length_cons]; omega)
        rw [← same] at short
        obtain ⟨afterCanonical, suffix⟩ := trimmed.canonical filled short
        rw [same] at suffix
        exact ⟨afterCanonical, suffix⟩
      · rw [append_extend continues.1 isLast none member, Option.some.injEq] at appended
        subst appended
        have lines := linesOf_extend isUnfinished lastLine member
        rw [← canonical.lines] at lines
        have notFinished : ¬Finished newline (buffer.text ++ data) := by
          rw [finished_append none]
          rintro (empty | ends)
          · exact none empty
          · exact member (List.mem_of_getLast? ends)
        obtain ⟨afterCanonical, same⟩ := canonical_of_lines
          { buffer with
            lines := buffer.lines.dropLast ++ [last ++ data]
            totalSize := buffer.totalSize + data.length } lines.symm
          (by simp [continues.1, notFinished]) total
        rw [same]
        exact ⟨afterCanonical, List.suffix_refl _⟩
    · have notIncomplete : buffer.lastLineIncomplete = false := by
        by_contra incomplete
        rw [Bool.not_eq_false] at incomplete
        refine continues ⟨incomplete, fun empty => canonical.flag.mp incomplete ?_⟩
        rw [text, empty]
        exact finished_nil
      have finished : Finished newline buffer.text := by
        by_contra isUnfinished
        rw [canonical.flag.mpr isUnfinished] at notIncomplete
        cases notIncomplete
      have short := spares.resolve_left fun longer => continues longer.1
      rw [← unfinished_append_of_parts buffer.text (.inl finished)] at short
      have lines := linesOf_append finished data
      rw [← canonical.lines] at lines
      rw [append_push none continues, ← lines] at appended
      obtain ⟨count, trimmed⟩ := trim_trimmed appended
      obtain ⟨filled, same⟩ := canonical_of_lines
        ⟨linesOf newline (buffer.text ++ data), buffer.totalSize + data.length,
          buffer.lastLineIncomplete || !decide (Finished newline data)⟩ rfl
        (by rw [finished_append none]; simp [notIncomplete]) total
      rw [← same] at short
      obtain ⟨afterCanonical, suffix⟩ := trimmed.canonical filled short
      rw [same] at suffix
      exact ⟨afterCanonical, suffix⟩

/-- The last stored line is unfinished if the text is. -/
theorem Canonical.incomplete (canonical : buffer.Canonical) :
    buffer.lastLineIncomplete = true ↔
      ∃ last, buffer.lines.getLast? = some last ∧ last.getLast? ≠ some newline := by
  rw [canonical.flag]
  constructor
  · intro isUnfinished
    have isLast := getLast?_linesOf_of_not_finished isUnfinished
    rw [← canonical.lines] at isLast
    exact ⟨_, isLast, fun ends => not_mem_unfinished (List.mem_of_getLast? ends)⟩
  · rintro ⟨last, isLast, notEnded⟩ finished
    rw [canonical.lines] at isLast
    rw [getLast?_of_linesOf isLast] at notEnded
    rcases finished with none | ends
    · rw [none] at isLast
      simp at isLast
    · exact notEnded ends

end Tail

/-- After a run of sparing calls the buffer replays an end of the output. -/
theorem trueTail_of_spares
    {chunks : List (List UInt8)}
    (spares : Calls Spares chunks)
    {buffer : OutputBuffer}
    (reached : run feed (some new) chunks = some buffer) :
    buffer.TrueTail chunks.flatten := by
  have start : Canonical new ∧ new.text <:+ [] :=
    ⟨⟨rfl, by simp [new, text], Nat.le_refl 0⟩, List.suffix_refl _⟩
  have step : ∀ (before : OutputBuffer) output data after,
      before.Canonical ∧ before.text <:+ output → before.Spares data →
        before.append data = some after → after.Canonical ∧ after.text <:+ output ++ data := by
    rintro before output data after ⟨canonical, front, rfl⟩ spares appended
    obtain ⟨afterCanonical, suffix⟩ := append_canonical canonical spares appended
    rw [List.append_assoc]
    exact ⟨afterCanonical, suffix.trans (List.suffix_append _ _)⟩
  obtain ⟨canonical, suffix⟩ := calls_induction
    (motive := fun buffer output => buffer.Canonical ∧ buffer.text <:+ output)
    start step spares reached
  refine ⟨suffix, ?_, canonical.incomplete, getRecent_longest buffer⟩
  rw [canonical.lines]
  exact endsLine_of_mem_dropLast

/-- A line in two parts, and a part of another one. -/
theorem trueTail_of_spares_parts : TrueTail ⟨[[97, 98, 10], [99]], 2, true⟩ [97, 98, 10, 99] :=
  @trueTail_of_spares [[97], [98, 10, 99]]
    ⟨fun _ same => by cases same; decide, fun _ same => by cases same; decide, trivial⟩ _
    (by decide)

/-- A line that is too long is trimmed before it ends, but the buffer goes on as if it were
there. -/
theorem append_too_long
    {data : List UInt8}
    (notIn : newline ∉ data)
    (tooLong : maxOutputBufferSize < data.length) :
    new.append data = some ⟨[], 0, true⟩ := by
  have some : data ≠ [] := by
    rintro rfl
    simp at tooLong
  have notFinished : ¬Finished newline data := by
    rintro (none | ends)
    · exact some none
    · exact notIn (List.mem_of_getLast? ends)
  rw [append_push some (by simp [Continues, new])]
  simp [new, linesOf_of_not_mem notIn some, notFinished, trim, trimLines, Overfull, tooLong]

/-- After a line that is too long, two lines are taken for one. -/
theorem two_lines_taken_for_one :
    ∃ buffer, run feed (some new)
        [List.replicate (maxOutputBufferSize + 1) 97, [97, 10], [98, 10, 99]] = some buffer ∧
      [97, 10, 98, 10] ∈ buffer.lines.dropLast ∧ ¬EndsLine newline [97, 10, 98, 10] := by
  have notIn : newline ∉ List.replicate (maxOutputBufferSize + 1) (97 : UInt8) := by
    rw [List.mem_replicate]
    rintro ⟨_, same⟩
    exact absurd same (by decide)
  have first : feed (some new) (List.replicate (maxOutputBufferSize + 1) 97) =
      some ⟨[], 0, true⟩ := by
    rw [feed, Option.bind_some]
    refine append_too_long notIn ?_
    rw [List.length_replicate]
    exact Nat.lt_succ_self _
  have rest : run feed (some ⟨[], 0, true⟩) [[97, 10], [98, 10, 99]] =
      some ⟨[[97, 10, 98, 10], [99]], 3, true⟩ := by decide
  refine ⟨⟨[[97, 10, 98, 10], [99]], 3, true⟩, ?_, by decide, ?_⟩
  · rw [run_cons, first, rest]
  · rintro ⟨body, whole, notInBody⟩
    have isBody : [97, 10, 98] = body := by
      have fronts := congrArg List.dropLast whole
      rwa [List.dropLast_concat] at fronts
    rw [← isBody] at notInBody
    exact notInBody (by decide)

end OutputBuffer
end Terminal
end OneDesk
