import Mathlib.Data.List.Basic

/-!
# UTF-8 with losses

The bytes of a text, and the text read from any bytes: what is not UTF-8 shows
as replacement characters, one for each longest broken start of a character.
Reading gives a text back from its bytes, and a text without replacement
character is read from its own bytes only.
-/

namespace OneDesk
namespace Lib

/-- The bytes of a text. -/
def utf8 (text : List Char) : List UInt8 :=
  text.flatMap String.utf8EncodeChar

@[simp] theorem utf8_nil : utf8 [] = [] := rfl

@[simp] theorem utf8_cons
    (char : Char)
    (text : List Char) :
    utf8 (char :: text) = String.utf8EncodeChar char ++ utf8 text := rfl

@[simp] theorem utf8_eq_nil {text : List Char} : utf8 text = [] ↔ text = [] := by
  cases text <;> simp [String.utf8EncodeChar_ne_nil]

@[simp] theorem utf8_append (left right : List Char) :
    utf8 (left ++ right) = utf8 left ++ utf8 right :=
  List.flatMap_append

/-- The character shown in place of broken bytes. -/
def replacement : Char := '\uFFFD'

/-- The character that some bytes begin with. -/
def decodeChar (bytes : List UInt8) : Option Char :=
  bytes.toByteArray.utf8DecodeChar? 0

theorem decodeChar_encode_append
    (char : Char)
    (rest : List UInt8) :
    decodeChar (String.utf8EncodeChar char ++ rest) = some char := by
  rw [decodeChar, List.toByteArray_append]
  exact ByteArray.utf8DecodeChar?_utf8EncodeChar_append

theorem eq_encode_append_of_decodeChar
    {bytes : List UInt8}
    {char : Char}
    (decoded : decodeChar bytes = some char) :
    ∃ rest, bytes = String.utf8EncodeChar char ++ rest := by
  obtain ⟨rest, bytes_eq⟩ :=
    ByteArray.exists_of_utf8DecodeChar?_eq_some decoded
  refine ⟨rest.data.toList, ?_⟩
  rw [← List.toByteArray_inj, bytes_eq, List.toByteArray_append]
  congr 1
  apply ByteArray.ext
  simp

/-- Whether a byte continues a character. -/
def isContinuation (byte : UInt8) : Bool := 0x80 ≤ byte && byte ≤ 0xBF

/-- Whether two bytes begin a character of three bytes. -/
def beginsThree (first second : UInt8) : Bool :=
  (first == 0xE0 && 0xA0 ≤ second && second ≤ 0xBF) ||
    (0xE1 ≤ first && first ≤ 0xEC && isContinuation second) ||
    (first == 0xED && 0x80 ≤ second && second ≤ 0x9F) ||
    (0xEE ≤ first && first ≤ 0xEF && isContinuation second)

/-- Whether two bytes begin a character of four bytes. -/
def beginsFour (first second : UInt8) : Bool :=
  (first == 0xF0 && 0x90 ≤ second && second ≤ 0xBF) ||
    (0xF1 ≤ first && first ≤ 0xF3 && isContinuation second) ||
    (first == 0xF4 && 0x80 ≤ second && second ≤ 0x8F)

/--
Number of bytes after the first one that one replacement character stands for,
where no character can be decoded.
-/
def brokenTail (first : UInt8) : List UInt8 → Nat
  | [] => 0
  | second :: rest =>
      if beginsThree first second then 1
      else if beginsFour first second then
        match rest with
        | third :: _ => if isContinuation third then 2 else 1
        | [] => 1
      else 0

/-- Read a text after skipping bytes that belong to what was read before. -/
def readLossy : Nat → List UInt8 → List Char
  | _, [] => []
  | skipped + 1, _ :: rest => readLossy skipped rest
  | 0, first :: rest =>
      match decodeChar (first :: rest) with
      | some char => char :: readLossy (char.utf8Size - 1) rest
      | none => replacement :: readLossy (brokenTail first rest) rest

/-- The text of some bytes, whatever they are. -/
def fromUtf8Lossy (bytes : List UInt8) : List Char := readLossy 0 bytes

/-- No more characters are read than there are bytes. -/
theorem length_readLossy_le (skipped : Nat) (bytes : List UInt8) :
    (readLossy skipped bytes).length ≤ bytes.length := by
  induction bytes generalizing skipped with
  | nil => simp [readLossy]
  | cons first rest inductionHypothesis =>
      cases skipped with
      | succ skipped =>
          rw [readLossy]
          exact Nat.le_succ_of_le (inductionHypothesis skipped)
      | zero =>
          rw [readLossy]
          split
          · exact Nat.succ_le_succ (inductionHypothesis _)
          · exact Nat.succ_le_succ (inductionHypothesis _)

theorem length_fromUtf8Lossy_le (bytes : List UInt8) :
    (fromUtf8Lossy bytes).length ≤ bytes.length :=
  length_readLossy_le 0 bytes

/-- The byte 255 is in no text. -/
theorem not_mem_utf8 (text : List Char) : 255 ∉ utf8 text := by
  rw [utf8, List.mem_flatMap]
  rintro ⟨char, -, member⟩
  have small : ∀ {number : Nat}, number < 255 → (255 : UInt8) ≠ UInt8.ofNat number := by
    intro number bound same
    have values := congrArg UInt8.toNat same
    rw [UInt8.toNat_ofNat', Nat.mod_eq_of_lt (by omega)] at values
    exact absurd values (Nat.ne_of_gt bound)
  simp only [String.utf8EncodeChar] at member
  split at member
  · simp only [List.mem_singleton] at member
    exact small (by omega) member
  split at member
  · simp only [List.mem_cons, List.not_mem_nil, or_false] at member
    rcases member with first | second
    · exact small (by omega) first
    · exact small (by omega) second
  split at member
  · simp only [List.mem_cons, List.not_mem_nil, or_false] at member
    rcases member with first | second | third
    · exact small (by omega) first
    · exact small (by omega) second
    · exact small (by omega) third
  · simp only [List.mem_cons, List.not_mem_nil, or_false] at member
    rcases member with first | second | third | fourth
    · exact small (by omega) first
    · exact small (by omega) second
    · exact small (by omega) third
    · exact small (by omega) fourth

theorem readLossy_append
    (skippedBytes rest : List UInt8) :
    readLossy skippedBytes.length (skippedBytes ++ rest) = readLossy 0 rest := by
  induction skippedBytes with
  | nil => rfl
  | cons byte skippedBytes inductionHypothesis =>
      simpa [readLossy] using inductionHypothesis

/-- A decoded character is read, and reading goes on behind its bytes. -/
@[simp] theorem fromUtf8Lossy_encode_append
    (char : Char)
    (rest : List UInt8) :
    fromUtf8Lossy (String.utf8EncodeChar char ++ rest) =
      char :: fromUtf8Lossy rest := by
  have decoded := decodeChar_encode_append char rest
  have size := String.length_utf8EncodeChar char
  cases bytes_eq : String.utf8EncodeChar char with
  | nil => exact absurd bytes_eq String.utf8EncodeChar_ne_nil
  | cons first others =>
      rw [bytes_eq, List.cons_append] at decoded
      rw [bytes_eq, List.length_cons] at size
      rw [List.cons_append, fromUtf8Lossy, readLossy, decoded]
      have others_length : char.utf8Size - 1 = others.length := by omega
      simp only [others_length, readLossy_append, fromUtf8Lossy]

/-- Reading gives a text back from its bytes. -/
@[simp] theorem fromUtf8Lossy_utf8 (text : List Char) :
    fromUtf8Lossy (utf8 text) = text := by
  induction text with
  | nil => rfl
  | cons char text inductionHypothesis =>
      rw [utf8_cons, fromUtf8Lossy_encode_append, inductionHypothesis]

/-- A text without replacement character was read from its own bytes. -/
theorem utf8_fromUtf8Lossy
    {bytes : List UInt8}
    (intact : replacement ∉ fromUtf8Lossy bytes) :
    utf8 (fromUtf8Lossy bytes) = bytes := by
  induction length_eq : bytes.length using Nat.strongRecOn
    generalizing bytes with
  | ind length inductionHypothesis =>
      cases decoded : decodeChar bytes with
      | some char =>
          obtain ⟨rest, rfl⟩ := eq_encode_append_of_decodeChar decoded
          rw [fromUtf8Lossy_encode_append] at intact ⊢
          have shorter : rest.length < length := by
            have positive := char.utf8Size_pos
            rw [List.length_append, String.length_utf8EncodeChar] at length_eq
            omega
          rw [utf8_cons,
            inductionHypothesis _ shorter (by simp_all) rfl]
      | none =>
          cases bytes with
          | nil => rfl
          | cons first rest =>
              rw [fromUtf8Lossy, readLossy, decoded] at intact
              simp at intact

/-- A text without replacement character is read from its own bytes only. -/
theorem fromUtf8Lossy_eq_iff
    {bytes : List UInt8}
    {text : List Char}
    (intact : replacement ∉ text) :
    fromUtf8Lossy bytes = text ↔ bytes = utf8 text := by
  constructor
  · rintro rfl
    exact (utf8_fromUtf8Lossy intact).symm
  · rintro rfl
    exact fromUtf8Lossy_utf8 text

/-- `String::from_utf8` and `OsStr::to_str`: the text of some bytes, if they are one. -/
def fromUtf8 (bytes : List UInt8) : Option (List Char) :=
  if utf8 (fromUtf8Lossy bytes) = bytes then some (fromUtf8Lossy bytes) else none

@[simp] theorem fromUtf8_utf8 (text : List Char) : fromUtf8 (utf8 text) = some text := by
  rw [fromUtf8, fromUtf8Lossy_utf8, if_pos rfl]

end Lib
end OneDesk
