import Mathlib.Algebra.Group.Int.Defs
import Mathlib.Algebra.Group.Nat.Defs
import Mathlib.Data.List.Basic

/-!
# Version numbers

`get_version_number` turns a version text into a number that peers compare to
decide which features the other side has.
-/

namespace OneDesk
namespace Common

/-- Value of a text of decimal digits, most significant first. -/
def parseDigits (chars : List Char) : Option Nat :=
  if chars.isEmpty then none
  else chars.foldl
    (fun value char =>
      value.bind fun number =>
        if char.isDigit then some (number * 10 + (char.toNat - '0'.toNat))
        else none)
    (some 0)

/-- `str::parse::<i64>`: an optional sign, then digits, in range. -/
def parseI64 (chars : List Char) : Option Int64 :=
  let parsed : Option Int :=
    match chars with
    | '-' :: digits => (parseDigits digits).map fun number => -(number : Int)
    | '+' :: digits => (parseDigits digits).map fun number => (number : Int)
    | digits => (parseDigits digits).map fun number => (number : Int)
  (parsed.filter fun number => -(2 ^ 63) ≤ number ∧ number < 2 ^ 63).map
    Int64.ofInt

/-- `str::parse::<u64>`: an optional plus sign, then digits, in range. -/
def parseU64 (chars : List Char) : Option Nat :=
  let parsed :=
    match chars with
    | '+' :: digits => parseDigits digits
    | digits => parseDigits digits
  parsed.filter fun number => number < 2 ^ 64

/-- The value of the dotted part, its last number counted ten times. -/
def dottedNumber (chars : List Char) : Int64 :=
  let accumulated := (chars.splitOn '.').foldl
    (fun (number, _) part =>
      let last := (parseI64 part).getD 0
      (number * 1000 + last, last))
    ((0, 0) : Int64 × Int64)
  accumulated.1 - accumulated.2 + accumulated.2 * 10

/-- Number of a version such as `1.2.3` or `1.2.3-4`. -/
def getVersionNumber (version : String) : Int64 :=
  match version.toList.splitOn '-' with
  | [] => 0
  | [dotted] => dottedNumber dotted
  | dotted :: patch :: _ => dottedNumber dotted + (parseI64 patch).getD 0

example : getVersionNumber "1.1.10" = 1001100 := by decide

example : getVersionNumber "1.2.3-4" = 1002034 := by decide

end Common
end OneDesk
