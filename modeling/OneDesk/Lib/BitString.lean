import Mathlib.Data.List.Basic
import Mathlib.Data.Nat.Bitwise

/-!
# Strings of bits

The bits of some bytes, the most significant bit of each byte first.
-/

namespace OneDesk
namespace Lib

/-- The bits of a byte, the most significant first. -/
def bitsOf (byte : UInt8) : List Bool :=
  (List.range 8).map fun place => byte.toNat.testBit (7 - place)

/-- The bits of some bytes. -/
def bits (bytes : List UInt8) : List Bool :=
  bytes.flatMap bitsOf

@[simp] theorem length_bitsOf (byte : UInt8) : (bitsOf byte).length = 8 := rfl

@[simp] theorem length_bits (bytes : List UInt8) : (bits bytes).length = 8 * bytes.length := by
  induction bytes with
  | nil => rfl
  | cons byte bytes inductionHypothesis =>
      rw [bits, List.flatMap_cons, List.length_append, ← bits, inductionHypothesis,
        length_bitsOf, List.length_cons]
      omega

theorem getElem?_bitsOf
    (byte : UInt8)
    {place : Nat}
    (inside : place < 8) :
    (bitsOf byte)[place]? = some (byte.toNat.testBit (7 - place)) := by
  rw [bitsOf, List.getElem?_map, List.getElem?_range inside]
  rfl

/-- The bit at a place is in the byte with an eighth of the number. -/
theorem getElem?_bits (bytes : List UInt8) (place : Nat) :
    (bits bytes)[place]? =
      bytes[place / 8]?.map fun byte => byte.toNat.testBit (7 - place % 8) := by
  induction bytes generalizing place with
  | nil => rfl
  | cons byte bytes inductionHypothesis =>
      rw [bits, List.flatMap_cons, ← bits]
      rcases Nat.lt_or_ge place 8 with inside | behind
      · rw [List.getElem?_append_left (by rwa [length_bitsOf]), getElem?_bitsOf byte inside,
          Nat.div_eq_of_lt inside, Nat.mod_eq_of_lt inside]
        rfl
      · obtain ⟨rest, rfl⟩ := Nat.exists_eq_add_of_le behind
        rw [List.getElem?_append_right (by rwa [length_bitsOf]), length_bitsOf,
          Nat.add_sub_cancel_left, inductionHypothesis, Nat.add_mod_left,
          Nat.add_div_left rest (by omega), List.getElem?_cons_succ]

/-- A mask with one bit tells this bit of a byte. -/
theorem and_shiftLeft_eq_iff
    (byte : UInt8)
    {place : Nat}
    (inside : place < 8) :
    byte &&& (1 <<< UInt8.ofNat place) = 1 <<< UInt8.ofNat place ↔
      byte.toNat.testBit place = true := by
  have mask : ((1 : UInt8) <<< UInt8.ofNat place).toNat = 2 ^ place := by
    have small : 2 ^ place < 2 ^ 8 := Nat.pow_lt_pow_right (by omega) inside
    rw [UInt8.toNat_shiftLeft, UInt8.toNat_ofNat', Nat.mod_eq_of_lt (by omega : place < 2 ^ 8),
      Nat.mod_eq_of_lt inside, Nat.shiftLeft_eq, UInt8.toNat_one, Nat.one_mul,
      Nat.mod_eq_of_lt small]
  rw [← UInt8.toNat_inj, UInt8.toNat_and, mask, Nat.and_two_pow]
  cases byte.toNat.testBit place with
  | true => simp
  | false =>
      have positive : 0 < 2 ^ place := Nat.two_pow_pos place
      simpa using positive.ne

end Lib
end OneDesk
