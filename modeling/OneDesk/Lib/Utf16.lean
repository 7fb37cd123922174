import OneDesk.Lib.LittleEndian

/-!
# UTF-16

The code units of a text, and the text read from code units: a unit that is no
surrogate is a character, a high and a low surrogate are one together, and nothing
else is read.
-/

namespace OneDesk
namespace Lib

/-- The code units of a character. -/
def utf16Units (character : Char) : List Nat :=
  if character.toNat < 0x10000 then [character.toNat]
  else
    [0xD800 + (character.toNat - 0x10000) / 0x400,
      0xDC00 + (character.toNat - 0x10000) % 0x400]

/-- The code units of a text. -/
def utf16 (text : List Char) : List Nat :=
  text.flatMap utf16Units

/-- The unit is half of a character. -/
def isSurrogate (unit : Nat) : Bool :=
  0xD800 ≤ unit && unit < 0xE000

/-- The text of some code units. -/
def fromUtf16 : List Nat → Option (List Char)
  | [] => some []
  | [unit] =>
      if isSurrogate unit then none else some [Char.ofNat unit]
  | unit :: next :: units =>
      if isSurrogate unit then
        if unit < 0xDC00 ∧ 0xDC00 ≤ next ∧ next < 0xE000 then
          (fromUtf16 units).map fun text =>
            Char.ofNat (0x10000 + (unit - 0xD800) * 0x400 + (next - 0xDC00)) :: text
        else none
      else (fromUtf16 (next :: units)).map fun text => Char.ofNat unit :: text

@[simp] theorem utf16_nil : utf16 [] = [] := rfl

@[simp] theorem utf16_cons (character : Char) (text : List Char) :
    utf16 (character :: text) = utf16Units character ++ utf16 text := rfl

/-- No character is a surrogate, and none is past the last code point. -/
theorem toNat_character (character : Char) :
    (character.toNat < 0xD800 ∨ 0xE000 ≤ character.toNat) ∧ character.toNat < 0x110000 := by
  have valid : character.toNat.isValidChar := character.valid
  rcases valid with low | ⟨high, bound⟩
  · exact ⟨.inl low, by omega⟩
  · exact ⟨.inr (by omega), by omega⟩

theorem utf16Units_lt
    {character : Char}
    {unit : Nat}
    (member : unit ∈ utf16Units character) :
    unit < 0x10000 := by
  have bound := (toNat_character character).2
  unfold utf16Units at member
  split at member
  · simp only [List.mem_singleton] at member
    omega
  · simp only [List.mem_cons, List.not_mem_nil, or_false] at member
    omega

theorem utf16_lt
    {text : List Char}
    {unit : Nat}
    (member : unit ∈ utf16 text) :
    unit < 0x10000 := by
  obtain ⟨character, _, unitOf⟩ := List.mem_flatMap.mp member
  exact utf16Units_lt unitOf

theorem fromUtf16_cons_of_not_surrogate
    {unit : Nat}
    (plain : isSurrogate unit = false)
    (units : List Nat) :
    fromUtf16 (unit :: units) =
      (fromUtf16 units).map fun text => Char.ofNat unit :: text := by
  cases units with
  | nil => simp [fromUtf16, plain]
  | cons next units => simp [fromUtf16, plain]

/-- A character is read from its units, whatever follows. -/
theorem fromUtf16_utf16Units_append
    (character : Char)
    (units : List Nat) :
    fromUtf16 (utf16Units character ++ units) =
      (fromUtf16 units).map fun text => character :: text := by
  obtain ⟨outside, bound⟩ := toNat_character character
  unfold utf16Units
  split
  · have plain : isSurrogate character.toNat = false := by
      simp only [isSurrogate, Bool.and_eq_false_iff, decide_eq_false_iff_not]
      omega
    rw [List.singleton_append, fromUtf16_cons_of_not_surrogate plain, Char.ofNat_toNat]
  · have high : isSurrogate (0xD800 + (character.toNat - 0x10000) / 0x400) = true := by
      simp only [isSurrogate, Bool.and_eq_true, decide_eq_true_eq]
      omega
    have paired : 0xD800 + (character.toNat - 0x10000) / 0x400 < 0xDC00 ∧
        0xDC00 ≤ 0xDC00 + (character.toNat - 0x10000) % 0x400 ∧
        0xDC00 + (character.toNat - 0x10000) % 0x400 < 0xE000 := by
      omega
    have joined : 0x10000 + (0xD800 + (character.toNat - 0x10000) / 0x400 - 0xD800) * 0x400 +
        (0xDC00 + (character.toNat - 0x10000) % 0x400 - 0xDC00) = character.toNat := by
      omega
    rw [List.cons_append, List.cons_append, List.nil_append, fromUtf16, if_pos high,
      if_pos paired, joined, Char.ofNat_toNat]

/-- A text is read back from its units, whatever follows. -/
theorem fromUtf16_utf16_append
    (text : List Char)
    (units : List Nat) :
    fromUtf16 (utf16 text ++ units) = (fromUtf16 units).map fun rest => text ++ rest := by
  induction text with
  | nil => simp
  | cons character text inductionHypothesis =>
      rw [utf16_cons, List.append_assoc, fromUtf16_utf16Units_append,
        inductionHypothesis, Option.map_map]
      rfl

theorem fromUtf16_replicate_zero (count : Nat) :
    fromUtf16 (List.replicate count 0) = some (List.replicate count (Char.ofNat 0)) := by
  induction count with
  | zero => rfl
  | succ count inductionHypothesis =>
      rw [List.replicate_succ, fromUtf16_cons_of_not_surrogate (by decide),
        inductionHypothesis]
      rfl

/-- The units of some bytes, little-endian; nothing for an odd count. -/
def unitsOfBytes : List UInt8 → Option (List Nat)
  | [] => some []
  | [_] => none
  | low :: high :: bytes =>
      (unitsOfBytes bytes).map fun units => (low.toNat + 256 * high.toNat) :: units

/-- The bytes of some units, little-endian. -/
def bytesOfUnits (units : List Nat) : List UInt8 :=
  units.flatMap (littleEndian 2)

@[simp] theorem bytesOfUnits_cons (unit : Nat) (units : List Nat) :
    bytesOfUnits (unit :: units) = littleEndian 2 unit ++ bytesOfUnits units := rfl

@[simp] theorem length_bytesOfUnits (units : List Nat) :
    (bytesOfUnits units).length = 2 * units.length := by
  induction units with
  | nil => rfl
  | cons unit units inductionHypothesis =>
      rw [bytesOfUnits_cons, List.length_append, length_littleEndian,
        inductionHypothesis, List.length_cons]
      omega

@[simp] theorem bytesOfUnits_append (left right : List Nat) :
    bytesOfUnits (left ++ right) = bytesOfUnits left ++ bytesOfUnits right :=
  List.flatMap_append

theorem unitsOfBytes_bytesOfUnits
    {units : List Nat}
    (small : ∀ unit ∈ units, unit < 0x10000) :
    unitsOfBytes (bytesOfUnits units) = some units := by
  induction units with
  | nil => rfl
  | cons unit units inductionHypothesis =>
      have rest := inductionHypothesis fun other member =>
        small other (List.mem_cons_of_mem unit member)
      have bound : unit < 0x10000 := small unit List.mem_cons_self
      have value : (UInt8.ofNat (unit % 256)).toNat +
          256 * (UInt8.ofNat (unit / 256 % 256)).toNat = unit := by
        rw [UInt8.toNat_ofNat', UInt8.toNat_ofNat']
        omega
      rw [bytesOfUnits_cons]
      simp only [littleEndian, List.cons_append, List.nil_append, unitsOfBytes, rest,
        Option.map_some, value]

end Lib
end OneDesk
