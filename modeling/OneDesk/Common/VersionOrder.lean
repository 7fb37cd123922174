import Mathlib.Data.Prod.Lex
import OneDesk.Common.Decimal
import OneDesk.Lib.Split

/-!
# The order of version numbers

The number of a version `a.b.c` or `a.b.c-d` is `a`, `b`, `c` and `d` in a
notation of mixed base, which orders versions by their first different
component as long as each component stays below its base.
-/

namespace OneDesk
namespace Common

open OneDesk.Lib

/-- The components of a version, most significant first. -/
abbrev Components := Nat ×ₗ Nat ×ₗ Nat ×ₗ Nat

/-- A version as it is written, with components below their bases. -/
structure Version where
  major : Decimal
  minor : Decimal
  last : Decimal
  /-- The number behind the dash. -/
  patch : Option Decimal
  minor_le : minor.value ≤ 999
  last_le : last.value ≤ 99
  patch_le : ∀ decimal ∈ patch, decimal.value ≤ 9
  /-- The number of the version does not overflow. -/
  major_small :
    (major.value * 1000 + minor.value) * 1000 + last.value * 10 +
      (patch.map Decimal.value).getD 0 < 2 ^ 63

namespace Version

variable (version : Version)

/-- The number of the patch, which is zero where there is none. -/
def patchValue : Nat :=
  (version.patch.map Decimal.value).getD 0

/-- `a.b.c` -/
def dotted : List Char :=
  version.major.digits ++ '.' ::
    (version.minor.digits ++ '.' :: version.last.digits)

/-- `a.b.c` or `a.b.c-d` -/
def text : String :=
  .ofList (version.dotted ++
    ((version.patch.map fun decimal => '-' :: decimal.digits).getD []))

def components : Components :=
  toLex (version.major.value,
    toLex (version.minor.value, toLex (version.last.value, version.patchValue)))

/-- What `get_version_number` computes. -/
def number : Nat :=
  (version.major.value * 1000 + version.minor.value) * 1000 +
    version.last.value * 10 + version.patchValue

theorem number_lt : version.number < 2 ^ 63 := version.major_small

theorem patchValue_le : version.patchValue ≤ 9 := by
  rw [patchValue]
  cases given : version.patch with
  | none => exact Nat.zero_le _
  | some decimal => exact version.patch_le decimal given

/-- The dotted part has its last number counted ten times. -/
theorem dottedNumber_dotted :
    dottedNumber version.dotted =
      Int64.ofInt ((version.major.value * 1000 + version.minor.value) * 1000 +
        version.last.value * 10) := by
  have bounded := version.number_lt
  rw [number] at bounded
  have parts : version.dotted.splitOn '.' =
      [version.major.digits, version.minor.digits, version.last.digits] := by
    rw [dotted, splitOn_append_cons _ (version.major.not_mem rfl),
      splitOn_append_cons _ (version.minor.not_mem rfl),
      splitOn_of_not_mem (version.last.not_mem rfl)]
  rw [dottedNumber, parts]
  simp only [List.foldl_cons, List.foldl_nil, Option.getD_some,
    version.major.parseI64_digits (by omega),
    version.minor.parseI64_digits (by omega),
    version.last.parseI64_digits (by omega)]
  have literals : (0 : Int64) = Int64.ofInt 0 ∧ (10 : Int64) = Int64.ofInt 10 ∧
      (1000 : Int64) = Int64.ofInt 1000 := by
    decide
  simp only [literals, ← Int64.ofInt_add, ← Int64.ofInt_mul, ← Int64.ofInt_sub]
  congr 1
  omega

theorem getVersionNumber_text :
    (getVersionNumber version.text).toInt = version.number := by
  have bounded := version.number_lt
  have noDash : '-' ∉ version.dotted := by
    simp [dotted, Decimal.not_mem]
  have wrapped :
      getVersionNumber version.text = Int64.ofInt version.number := by
    rw [getVersionNumber, text, String.toList_ofList, number, patchValue]
    cases given : version.patch with
    | none =>
        simp only [Option.map_none, Option.getD_none, List.append_nil,
          splitOn_of_not_mem noDash, version.dottedNumber_dotted]
        exact congrArg Int64.ofInt (by omega)
    | some decimal =>
        have small : decimal.value < 2 ^ 63 := by
          have bound := version.patch_le decimal given
          omega
        have noDashLast : '-' ∉ decimal.digits := decimal.not_mem rfl
        simp only [Option.map_some, Option.getD_some,
          splitOn_append_cons _ noDash,
          splitOn_of_not_mem noDashLast,
          version.dottedNumber_dotted, decimal.parseI64_digits small,
          ← Int64.ofInt_add]
        exact congrArg Int64.ofInt (by omega)
  rw [wrapped, Int64.toInt_ofInt_of_le (by omega) (by omega)]

/-- Versions order by their first different component. -/
theorem number_lt_iff (left right : Version) :
    left.number < right.number ↔ left.components < right.components := by
  have leftPatch := left.patchValue_le
  have rightPatch := right.patchValue_le
  have leftLast := left.last_le
  have rightLast := right.last_le
  have leftMinor := left.minor_le
  have rightMinor := right.minor_le
  simp only [components, Prod.Lex.toLex_lt_toLex, number]
  omega

theorem number_eq_iff (left right : Version) :
    left.number = right.number ↔ left.components = right.components := by
  rw [← not_iff_not, ← ne_eq, ← ne_eq, ne_iff_lt_or_gt, ne_iff_lt_or_gt, number_lt_iff,
    number_lt_iff]

/-- Numbers of versions order and differ as the components do. -/
theorem getVersionNumber_orders (left right : Version) :
    (getVersionNumber left.text < getVersionNumber right.text ↔
        left.components < right.components) ∧
      (getVersionNumber left.text = getVersionNumber right.text ↔
        left.components = right.components) := by
  constructor
  · rw [Int64.lt_iff_toInt_lt, getVersionNumber_text, getVersionNumber_text,
      Int.ofNat_lt]
    exact number_lt_iff left right
  · rw [← Int64.toInt_inj, getVersionNumber_text, getVersionNumber_text,
      Int.ofNat_inj]
    exact number_eq_iff left right

example :
    ({ major := .ofNat 1, minor := .ofNat 1, last := .ofNat 10
       patch := some (.ofNat 1), minor_le := by decide, last_le := by decide
       patch_le := by decide, major_small := by decide } : Version).text =
      "1.1.10-1" := by
  decide

end Version

end Common
end OneDesk
