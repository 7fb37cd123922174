import Mathlib.Algebra.Group.Nat.Defs
import Mathlib.Data.List.Basic
import Mathlib.Data.Nat.Notation

/-!
# Big-endian numbers

Numbers written as a fixed count of bytes, the most significant byte first, and
read back from any bytes.
-/

namespace OneDesk
namespace Lib

/-- The last bytes of a number, most significant first. -/
def bigEndian : Nat → Nat → List UInt8
  | 0, _ => []
  | count + 1, number =>
      bigEndian count (number / 256) ++ [UInt8.ofNat (number % 256)]

/-- The number some bytes stand for, most significant first. -/
def fromBigEndian (bytes : List UInt8) : Nat :=
  bytes.foldl (fun number byte => number * 256 + byte.toNat) 0

@[simp] theorem length_bigEndian (count number : Nat) :
    (bigEndian count number).length = count := by
  induction count generalizing number with
  | zero => rfl
  | succ count inductionHypothesis => simp [bigEndian, inductionHypothesis]

theorem fromBigEndian_concat
    (bytes : List UInt8)
    (byte : UInt8) :
    fromBigEndian (bytes ++ [byte]) = fromBigEndian bytes * 256 + byte.toNat := by
  simp [fromBigEndian]

/-- A number that fits is read back from its bytes. -/
theorem fromBigEndian_bigEndian
    {count number : Nat}
    (fits : number < 256 ^ count) :
    fromBigEndian (bigEndian count number) = number := by
  induction count generalizing number with
  | zero =>
      rw [Nat.pow_zero] at fits
      obtain rfl : number = 0 := by omega
      rfl
  | succ count inductionHypothesis =>
      have quotient_fits : number / 256 < 256 ^ count := by
        rw [Nat.pow_succ] at fits
        exact Nat.div_lt_of_lt_mul (by omega)
      have remainder_small : number % 256 < 256 := Nat.mod_lt _ (by omega)
      rw [bigEndian, fromBigEndian_concat, inductionHypothesis quotient_fits,
        UInt8.toNat_ofNat', Nat.mod_eq_of_lt remainder_small]
      omega

end Lib
end OneDesk
