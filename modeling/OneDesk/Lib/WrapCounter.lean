import Mathlib.Algebra.Group.Nat.Defs

/-!
# Counters that start again

A signed counter that is never negative goes from its largest value back to zero.  Of two such
counters, one that is compared with the other for equality only tells how far ahead it is up to the
number of values.
-/

namespace OneDesk
namespace Lib

/-- The next value of a counter. -/
def nextCount (count : Int32) : Int32 :=
  if count = Int32.maxValue then 0 else count + 1

theorem toInt_nextCount
    {count : Int32}
    (nonneg : 0 ≤ count.toInt) :
    (nextCount count).toInt = (count.toInt + 1) % 2147483648 := by
  unfold nextCount
  split
  case isTrue largest => rw [largest]; rfl
  case isFalse smaller =>
    have bound := count.toInt_le
    have different : count.toInt ≠ Int32.maxValue.toInt :=
      fun same => smaller (Int32.toInt_inj.mp same)
    rw [Int32.toInt_maxValue] at bound different
    have one : (1 : Int32).toInt = 1 := rfl
    rw [Int32.toInt_add, one, Int.bmod_def]
    omega

theorem nextCount_ne (count : Int32) : nextCount count ≠ count := by
  unfold nextCount
  split
  case isTrue largest => rw [largest]; decide
  case isFalse =>
    intro same
    have values := congrArg Int32.toInt same
    have low := count.le_toInt
    have high := count.toInt_lt
    have one : (1 : Int32).toInt = 1 := rfl
    rw [Int32.toInt_add, one, Int.bmod_def] at values
    omega

/-- A counter is as many steps ahead of another, which may have started again in between. -/
structure Ahead (lead : Nat) (front back : Int32) : Prop where
  front_nonneg : 0 ≤ front.toInt
  back_nonneg : 0 ≤ back.toInt
  toInt_eq : front.toInt = (back.toInt + lead) % 2147483648

namespace Ahead

variable {lead : Nat} {front back : Int32}

theorem same (nonneg : 0 ≤ front.toInt) : Ahead 0 front front where
  front_nonneg := nonneg
  back_nonneg := nonneg
  toInt_eq := by
    have bound := front.toInt_le
    rw [Int32.toInt_maxValue] at bound
    omega

theorem next (ahead : Ahead lead front back) : Ahead (lead + 1) (nextCount front) back where
  front_nonneg := by
    rw [toInt_nextCount ahead.front_nonneg]
    omega
  back_nonneg := ahead.back_nonneg
  toInt_eq := by
    rw [toInt_nextCount ahead.front_nonneg, ahead.toInt_eq]
    omega

/-- Counters are equal after as many steps as there are values, and never in between. -/
theorem eq_iff (ahead : Ahead lead front back) : front = back ↔ lead % 2147483648 = 0 := by
  have back_nonneg := ahead.back_nonneg
  have bound := back.toInt_le
  rw [Int32.toInt_maxValue] at bound
  rw [← Int32.toInt_inj, ahead.toInt_eq]
  omega

end Ahead

end Lib
end OneDesk
