import OneDesk.Common.Version

/-!
# Decimal numbers

What the parsers of numbers accept: a text of digits has the number it is the
notation of, with or without leading zeros, and the text that a number is
written as is read as that number.
-/

namespace OneDesk
namespace Common

/-- The loop of `parseDigits`, from a number that was read so far. -/
theorem foldl_digits_eq_some_iff
    (chars : List Char)
    (start number : Nat) :
    chars.foldl
        (fun value char =>
          value.bind fun number =>
            if char.isDigit then some (number * 10 + (char.toNat - '0'.toNat))
            else none)
        (some start) = some number ↔
      (∀ char ∈ chars, char.isDigit = true) ∧
        Nat.ofDigitChars 10 chars start = number := by
  induction chars generalizing start with
  | nil => simp
  | cons char chars inductionHypothesis =>
      rw [List.foldl_cons, Option.bind_some, List.forall_mem_cons,
        Nat.ofDigitChars_cons]
      split
      case isTrue digit =>
        rw [inductionHypothesis, Nat.mul_comm]
        simp [digit]
      case isFalse other =>
        have stuck : ∀ rest : List Char,
            rest.foldl
              (fun value char =>
                value.bind fun number =>
                  if char.isDigit then
                    some (number * 10 + (char.toNat - '0'.toNat))
                  else none)
              none = none := by
          intro rest
          induction rest with
          | nil => rfl
          | cons _ _ again => exact again
        rw [stuck]
        simp [other]

/-- A text has a number exactly if it is made of digits. -/
theorem parseDigits_eq_some_iff
    {chars : List Char}
    {number : Nat} :
    parseDigits chars = some number ↔
      chars ≠ [] ∧ (∀ char ∈ chars, char.isDigit = true) ∧
        Nat.ofDigitChars 10 chars 0 = number := by
  cases chars with
  | nil => simp [parseDigits]
  | cons char chars =>
      have given := foldl_digits_eq_some_iff (char :: chars) 0 number
      simpa [parseDigits] using given

/-- An optional sign, then digits. -/
def parseSigned (chars : List Char) : Option Int :=
  match chars with
  | '-' :: digits => (parseDigits digits).map fun number => -(number : Int)
  | '+' :: digits => (parseDigits digits).map fun number => (number : Int)
  | digits => (parseDigits digits).map fun number => (number : Int)

theorem parseI64_eq (chars : List Char) :
    parseI64 chars =
      ((parseSigned chars).filter fun number =>
        -(2 ^ 63) ≤ number ∧ number < 2 ^ 63).map Int64.ofInt :=
  rfl

/-- A decimal number as it is written. -/
structure Decimal where
  digits : List Char
  value : Nat
  parsed : parseDigits digits = some value

namespace Decimal

variable (decimal : Decimal)

theorem ne_nil : decimal.digits ≠ [] :=
  (parseDigits_eq_some_iff.mp decimal.parsed).1

theorem isDigit_of_mem {char : Char} (member : char ∈ decimal.digits) :
    char.isDigit = true :=
  (parseDigits_eq_some_iff.mp decimal.parsed).2.1 char member

/-- Nothing but digits is in a number, so no separator is. -/
theorem not_mem {char : Char} (other : char.isDigit = false) :
    char ∉ decimal.digits := by
  intro member
  rw [decimal.isDigit_of_mem member] at other
  cases other

/-- A text of digits has no sign. -/
theorem parseSigned_digits : parseSigned decimal.digits = some (decimal.value : Int) := by
  have noMinus : '-' ∉ decimal.digits := decimal.not_mem rfl
  have noPlus : '+' ∉ decimal.digits := decimal.not_mem rfl
  unfold parseSigned
  split
  case h_1 digits_eq => exact absurd (by simp [digits_eq]) noMinus
  case h_2 digits_eq => exact absurd (by simp [digits_eq]) noPlus
  case h_3 =>
    rw [decimal.parsed]
    rfl

/-- A number is read as it is where it fits. -/
theorem parseI64_digits (small : decimal.value < 2 ^ 63) :
    parseI64 decimal.digits = some (Int64.ofInt decimal.value) := by
  have fits : -(2 ^ 63) ≤ (decimal.value : Int) ∧
      (decimal.value : Int) < 2 ^ 63 := by
    omega
  rw [parseI64_eq, decimal.parseSigned_digits, Option.filter_some,
    if_pos (by simpa using fits), Option.map_some]

/-- A number without leading zeros. -/
def ofNat (number : Nat) : Decimal where
  digits := Nat.toDigits 10 number
  value := number
  parsed := parseDigits_eq_some_iff.mpr
    ⟨Nat.toDigits_ne_nil,
      fun _ member => Nat.isDigit_of_mem_toDigits (by decide) (by decide) member,
      Nat.ofDigitChars_ten_toDigits⟩

end Decimal

end Common
end OneDesk
