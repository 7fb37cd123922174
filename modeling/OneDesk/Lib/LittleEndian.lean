import Mathlib.Algebra.Group.Nat.Defs
import Mathlib.Data.List.Basic
import Mathlib.Data.Nat.Notation

/-!
# Little-endian numbers

Numbers written as a fixed count of bytes, the least significant byte first, and
read back from any bytes.
-/

namespace OneDesk
namespace Lib

/-- The last bytes of a number, least significant first. -/
def littleEndian : Nat → Nat → List UInt8
  | 0, _ => []
  | count + 1, number => UInt8.ofNat (number % 256) :: littleEndian count (number / 256)

/-- The number some bytes stand for, least significant first. -/
def fromLittleEndian : List UInt8 → Nat
  | [] => 0
  | byte :: bytes => byte.toNat + 256 * fromLittleEndian bytes

@[simp] theorem length_littleEndian (count number : Nat) :
    (littleEndian count number).length = count := by
  induction count generalizing number with
  | zero => rfl
  | succ count inductionHypothesis => simp [littleEndian, inductionHypothesis]

/-- What is read back is the number, up to what the bytes can hold. -/
theorem fromLittleEndian_littleEndian (count number : Nat) :
    fromLittleEndian (littleEndian count number) = number % 256 ^ count := by
  induction count generalizing number with
  | zero => simp [littleEndian, fromLittleEndian, Nat.mod_one]
  | succ count inductionHypothesis =>
      have small : number % 256 < 256 := Nat.mod_lt _ (by omega)
      rw [littleEndian, fromLittleEndian, inductionHypothesis, UInt8.toNat_ofNat',
        Nat.mod_eq_of_lt small, Nat.pow_succ', Nat.mod_mul]

/-- A number that fits is read back from its bytes. -/
theorem fromLittleEndian_of_fits
    {count number : Nat}
    (fits : number < 256 ^ count) :
    fromLittleEndian (littleEndian count number) = number := by
  rw [fromLittleEndian_littleEndian, Nat.mod_eq_of_lt fits]

/-- Bytes stand for a number that fits in them. -/
theorem fromLittleEndian_lt (bytes : List UInt8) :
    fromLittleEndian bytes < 256 ^ bytes.length := by
  induction bytes with
  | nil => simp [fromLittleEndian]
  | cons byte bytes inductionHypothesis =>
      have small : byte.toNat < 256 := byte.toNat_lt
      rw [fromLittleEndian, List.length_cons, Nat.pow_succ']
      omega

/-- Bytes that fit are written as they were read. -/
theorem littleEndian_fromLittleEndian (bytes : List UInt8) :
    littleEndian bytes.length (fromLittleEndian bytes) = bytes := by
  induction bytes with
  | nil => rfl
  | cons byte bytes inductionHypothesis =>
      have small : byte.toNat < 256 := byte.toNat_lt
      have lowest : (byte.toNat + 256 * fromLittleEndian bytes) % 256 = byte.toNat := by omega
      have others : (byte.toNat + 256 * fromLittleEndian bytes) / 256 =
          fromLittleEndian bytes := by omega
      rw [fromLittleEndian, List.length_cons, littleEndian, lowest, others, inductionHypothesis,
        UInt8.ofNat_toNat]

/-- Zero bytes at the end stand for nothing. -/
@[simp] theorem fromLittleEndian_append_zeros (bytes : List UInt8) (count : Nat) :
    fromLittleEndian (bytes ++ List.replicate count 0) = fromLittleEndian bytes := by
  induction bytes with
  | nil =>
      induction count with
      | zero => rfl
      | succ count inductionHypothesis =>
          rw [List.nil_append] at inductionHypothesis
          simp [List.replicate_succ, fromLittleEndian, inductionHypothesis]
  | cons byte bytes inductionHypothesis =>
      rw [List.cons_append, fromLittleEndian, inductionHypothesis, fromLittleEndian]

/-- The first number of a byte string, with what follows. -/
def takeLittleEndian (count : Nat) (bytes : List UInt8) : Nat × List UInt8 :=
  (fromLittleEndian (bytes.take count), bytes.drop count)

@[simp] theorem takeLittleEndian_append (count number : Nat) (rest : List UInt8) :
    takeLittleEndian count (littleEndian count number ++ rest) =
      (number % 256 ^ count, rest) := by
  have length := length_littleEndian count number
  rw [takeLittleEndian, List.take_left' length, List.drop_left' length,
    fromLittleEndian_littleEndian]

end Lib
end OneDesk
