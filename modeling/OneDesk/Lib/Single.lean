import Mathlib

/-!
# Single precision numbers

Facts about the order and the exact operations of `Float32`, from its logical
model.  Every number has a position in a linear order except NaN, so comparison
of numbers is comparison of positions.  What a bit pattern decodes to is
canonical, and packing a canonical value loses nothing below the overflow
threshold; hence multiplication by one is exact.
-/

namespace OneDesk
namespace Lib
namespace Single

open Float.Model
open Float.Model.UnpackedFloat

/-- Position of a value in the order of numbers.  NaN has none. -/
def position : UnpackedFloat → Option (ℤ ×ₗ ℤ ×ₗ ℤ)
  | .notANumber => none
  | .infinity .negative => some (toLex (-2, toLex (0, 0)))
  | .finite .negative mantissa exponent _ =>
      some (toLex (-1, toLex (-exponent, -mantissa)))
  | .zero _ => some (toLex (0, toLex (0, 0)))
  | .finite .positive mantissa exponent _ =>
      some (toLex (1, toLex (exponent, mantissa)))
  | .infinity .positive => some (toLex (2, toLex (0, 0)))

/-- Comparing exponents first and mantissas next. -/
theorem then_compare
    (left right : ℤ)
    (mantissa other : ℕ) :
    (compare left right).then (compare mantissa other) =
      if left < right ∨ left = right ∧ mantissa < other then .lt
      else if right < left ∨ right = left ∧ other < mantissa then .gt
      else .eq := by
  rcases lt_trichotomy left right with less | rfl | more
  · simp [compare_lt_iff_lt.mpr less, less]
  · rcases lt_trichotomy mantissa other with less | rfl | more
    · simp [compare_lt_iff_lt.mpr less, less]
    · simp
    · simp [compare_gt_iff_gt.mpr more, more, more.not_gt]
  · simp [compare_gt_iff_gt.mpr more, more, more.not_gt, more.ne']

/-- Comparison of values is comparison of positions. -/
theorem compare_eq_cmp
    (left right : UnpackedFloat) :
    left.compare right =
      (position left).bind fun first => (position right).map (cmp first) := by
  rcases left with sign | _ | sign | ⟨sign, mantissa, exponent, positive⟩ <;>
    rcases right with other | _ | other | ⟨other, otherMantissa, otherExponent, _⟩ <;>
    (try cases sign) <;> (try cases other) <;>
    simp [UnpackedFloat.compare, position, cmp, cmpUsing, Prod.Lex.toLex_lt_toLex,
      then_compare] <;>
    first
      | rfl
      | (split_ifs <;> first | rfl | omega)

theorem le_iff_position
    (left right : Float32) :
    left ≤ right ↔
      ∃ first ∈ position left.toModel.unpack,
        ∃ second ∈ position right.toModel.unpack, first ≤ second := by
  change decide (UnpackedFloat.le _ _ = true) = true ↔ _
  rw [decide_eq_true_eq, UnpackedFloat.le, compare_eq_cmp]
  cases position left.toModel.unpack <;> cases position right.toModel.unpack <;>
    simp [← Ordering.ne_gt_iff_isLE, cmp_eq_gt_iff]

theorem lt_iff_position
    (left right : Float32) :
    left < right ↔
      ∃ first ∈ position left.toModel.unpack,
        ∃ second ∈ position right.toModel.unpack, first < second := by
  change decide (UnpackedFloat.lt _ _ = true) = true ↔ _
  rw [decide_eq_true_eq, UnpackedFloat.lt, compare_eq_cmp]
  cases position left.toModel.unpack <;> cases position right.toModel.unpack <;>
    simp [cmp_eq_lt_iff]

variable {a b c : Float32}

theorem le_of_lt_of_le
    (first : a < b)
    (second : b ≤ c) :
    a ≤ c := by
  rw [lt_iff_position] at first
  rw [le_iff_position] at second ⊢
  obtain ⟨start, start_mem, middle, middle_mem, below⟩ := first
  obtain ⟨same, same_mem, finish, finish_mem, above⟩ := second
  obtain rfl : middle = same := Option.some_inj.mp (middle_mem.symm.trans same_mem)
  exact ⟨start, start_mem, finish, finish_mem, (below.trans_le above).le⟩

theorem le_trans
    (first : a ≤ b)
    (second : b ≤ c) :
    a ≤ c := by
  rw [le_iff_position] at first second ⊢
  obtain ⟨start, start_mem, middle, middle_mem, below⟩ := first
  obtain ⟨same, same_mem, finish, finish_mem, above⟩ := second
  obtain rfl : middle = same := Option.some_inj.mp (middle_mem.symm.trans same_mem)
  exact ⟨start, start_mem, finish, finish_mem, below.trans above⟩

theorem isSome_position
    (value : UnpackedFloat) :
    (position value).isSome ↔ value ≠ .notANumber := by
  rcases value with sign | _ | sign | ⟨sign, _, _, _⟩ <;> (try cases sign) <;>
    simp [position]

/-- Of two numbers, one is at least the other. -/
theorem le_of_not_lt
    (isNumber : a.toModel.unpack ≠ .notANumber)
    (otherIsNumber : b.toModel.unpack ≠ .notANumber)
    (notLess : ¬a < b) :
    b ≤ a := by
  rw [lt_iff_position] at notLess
  rw [le_iff_position]
  obtain ⟨first, first_eq⟩ :=
    Option.isSome_iff_exists.mp ((isSome_position _).mpr isNumber)
  obtain ⟨second, second_eq⟩ :=
    Option.isSome_iff_exists.mp ((isSome_position _).mpr otherIsNumber)
  refine ⟨second, second_eq, first, first_eq, ?_⟩
  by_contra beyond
  exact notLess ⟨first, first_eq, second, second_eq, lt_of_not_ge beyond⟩

/-- A value that is below another is a number. -/
theorem isNumber_of_le
    (below : a ≤ b) :
    a.toModel.unpack ≠ .notANumber ∧ b.toModel.unpack ≠ .notANumber := by
  rw [le_iff_position] at below
  obtain ⟨first, first_eq, second, second_eq, -⟩ := below
  rw [← isSome_position, ← isSome_position]
  exact ⟨Option.isSome_of_mem first_eq, Option.isSome_of_mem second_eq⟩

/-- A value in the form in which single precision stores it. -/
def Canonical : UnpackedFloat → Prop
  | .finite _ mantissa exponent _ =>
      mantissa < 2 ^ 24 ∧ -149 ≤ exponent ∧ exponent ≤ 104 ∧
        (2 ^ 23 ≤ mantissa ∨ exponent = -149)
  | _ => True

theorem toNat_one_append
    (mantissa : BitVec 23) :
    (1#1 ++ mantissa).toNat = 2 ^ 23 + mantissa.toNat := by
  rw [BitVec.toNat_append, ← Nat.shiftLeft_add_eq_or_of_lt mantissa.isLt]
  rfl

theorem canonical_unpack
    (x : Float32.Model) :
    Canonical x.unpack := by
  have mantissa_lt :=
    (@unpackMantissa Format.binary32 x.toBits.toBitVec).isLt
  have exponent_lt :=
    (@unpackExponent Format.binary32 x.toBits.toBitVec).isLt
  unfold Float32.Model.unpack UnpackedFloat.unpack
  dsimp only
  split_ifs with special infinite low zero
  · trivial
  · trivial
  · trivial
  · refine ⟨by dsimp at mantissa_lt ⊢; omega, ?_⟩
    simp [low, Format.exponentBias]
  · have notSpecial := mt BitVec.eq_of_toNat_eq special
    have notLow := mt BitVec.eq_of_toNat_eq low
    have whole := toNat_one_append
      (@unpackMantissa Format.binary32 x.toBits.toBitVec)
    refine ⟨?_, ?_, ?_, .inl ?_⟩ <;> simp [Format.exponentBias] at * <;> omega

@[simp] theorem exponentBias_binary32 :
    Format.binary32.exponentBias = 127 :=
  rfl

/-- Packing a canonical value loses nothing. -/
theorem unpack_pack
    {value : UnpackedFloat}
    (canonical : Canonical value) :
    (Float32.Model.pack value).unpack = value := by
  rcases value with sign | _ | sign | ⟨sign, mantissa, exponent, positive⟩
  · cases sign <;> rfl
  · rfl
  · cases sign <;> rfl
  · obtain ⟨mantissa_lt, exponent_ge, exponent_le, normal⟩ := canonical
    have representable : ¬2 ^ 8 ≤ (exponent + (127 : ℕ) + (23 : ℕ)).toNat + 1 := by
      omega
    simp only [Float32.Model.pack, Float32.Model.unpack, UnpackedFloat.pack,
      exponentBias_binary32, representable, if_false]
    by_cases large : 2 ^ 23 ≤ mantissa
    · have bits : mantissa.log2 + 1 = Format.binary32.mantissaBits := by
        rw [(Nat.log2_eq_iff (k := 23) positive.ne').mpr ⟨large, mantissa_lt⟩]
        rfl
      have notSpecial : BitVec.ofNat 8 (exponent + 127 + 23).toNat ≠ 255#8 := by
        simp [← BitVec.toNat_inj]
        omega
      have notLow : BitVec.ofNat 8 (exponent + 127 + 23).toNat ≠ 0#8 := by
        simp [← BitVec.toNat_inj]
        omega
      have whole := toNat_one_append (BitVec.ofNat 23 mantissa)
      simp [bits, UnpackedFloat.unpack, notSpecial, notLow] at whole ⊢
      omega
    · have bits : mantissa.log2 + 1 ≠ Format.binary32.mantissaBits := by
        have := (Nat.log2_lt positive.ne').mpr (not_le.mp large)
        simp [Format.mantissaBits]
        omega
      have notZero : BitVec.ofNat 23 mantissa ≠ 0#23 := by
        simp [← BitVec.toNat_inj]
        omega
      simp [bits, UnpackedFloat.unpack, notZero]
      omega

/-- Shifting out zeros loses nothing. -/
theorem shiftRight_mul_two_pow
    (mantissa shift : ℕ) :
    (⟨mantissa * 2 ^ shift, false, false⟩ : ExtendedMantissa) >>> shift =
      ⟨mantissa, false, false⟩ := by
  induction shift generalizing mantissa with
  | zero =>
      rw [pow_zero, mul_one]
      rfl
  | succ shift inductionHypothesis =>
      have split : mantissa * 2 ^ (shift + 1) = mantissa * 2 * 2 ^ shift := by
        rw [pow_succ, mul_assoc, mul_comm 2]
      rw [split]
      change ExtendedMantissa.shiftRightOne
        ((⟨mantissa * 2 * 2 ^ shift, false, false⟩ : ExtendedMantissa) >>> shift) = _
      rw [inductionHypothesis]
      simp [ExtendedMantissa.shiftRightOne]

theorem log2_mul_two_pow
    {mantissa : ℕ}
    (positive : 0 < mantissa)
    (shift : ℕ) :
    (mantissa * 2 ^ shift).log2 = mantissa.log2 + shift := by
  rw [Nat.log2_eq_iff (Nat.mul_pos positive (Nat.two_pow_pos shift)).ne', pow_succ,
    pow_add, mul_right_comm, ← pow_succ]
  exact ⟨Nat.mul_le_mul_right _ (Nat.log2_self_le positive.ne'),
    Nat.mul_lt_mul_of_pos_right Nat.lt_log2_self (Nat.two_pow_pos shift)⟩

section

variable {sign : Sign} {mantissa : ℕ} {exponent : ℤ} {positive : 0 < mantissa}

/-- The exponent of a canonical value is the one that the format asks for. -/
theorem targetExponent_of_canonical
    (canonical : Canonical (.finite sign mantissa exponent positive))
    (shift : ℕ) :
    Format.binary32.targetExponent
      (totalExponent (mantissa * 2 ^ shift) (exponent - shift)) = exponent := by
  obtain ⟨mantissa_lt, exponent_ge, exponent_le, normal⟩ := canonical
  have log2_lt := (Nat.log2_lt positive.ne').mpr mantissa_lt
  have log2_ge : 2 ^ 23 ≤ mantissa → 23 ≤ mantissa.log2 :=
    (Nat.le_log2 positive.ne').mpr
  simp only [Format.targetExponent, totalExponent, log2_mul_two_pow positive,
    Format.mantissaBits, Format.minExponent]
  omega

theorem shiftToTargetExponent_of_canonical
    (canonical : Canonical (.finite sign mantissa exponent positive))
    (shift : ℕ) :
    shiftToTargetExponent Format.binary32 (mantissa * 2 ^ shift) (exponent - shift)
      .exact = (⟨mantissa, false, false⟩, exponent) := by
  have amount : (exponent - (exponent - shift)).toNat = shift := by omega
  simp only [shiftToTargetExponent, targetExponent_of_canonical canonical,
    shiftToExponent, amount, ExtendedMantissa.ofMantissaAndAccuracy,
    shiftRight_mul_two_pow, sub_add_cancel]

/-- Rounding a canonical value with zeros shifted in gives the value back. -/
theorem roundWithAccuracy_of_canonical
    (canonical : Canonical (.finite sign mantissa exponent positive))
    (shift : ℕ) :
    roundWithAccuracy Format.binary32 sign (mantissa * 2 ^ shift) (exponent - shift)
      .exact = .finite sign mantissa exponent positive := by
  have rounded : (⟨mantissa, false, false⟩ : ExtendedMantissa).roundedMantissa =
      mantissa :=
    rfl
  have again : shiftToTargetExponent Format.binary32 mantissa exponent .exact =
      (⟨mantissa, false, false⟩, exponent) := by
    simpa using shiftToTargetExponent_of_canonical canonical 0
  simp only [roundWithAccuracy, shiftToTargetExponent_of_canonical canonical, rounded,
    again, positive.ne', dif_neg, not_false_eq_true]

end

@[simp] theorem unpack_one :
    (1.0 : Float32).toModel.unpack = .finite .positive (2 ^ 23) (-23) (by decide) := by
  rfl

/-- Multiplication by one is exact. -/
theorem unpack_mul_one
    (a : Float32) :
    (a * 1.0).toModel.unpack = a.toModel.unpack := by
  have canonical := canonical_unpack a.toModel
  change (Float32.Model.pack (UnpackedFloat.mul Format.binary32 a.toModel.unpack
    (1.0 : Float32).toModel.unpack)).unpack = _
  rw [unpack_one]
  generalize a.toModel.unpack = value at canonical
  have exact : UnpackedFloat.mul Format.binary32 value
      (.finite .positive (2 ^ 23) (-23) (by decide)) = value := by
    rcases value with sign | _ | sign | ⟨sign, mantissa, exponent, positive⟩
    · cases sign <;> rfl
    · rfl
    · cases sign <;> rfl
    · have unsigned : sign * Sign.positive = sign := by cases sign <;> rfl
      rw [UnpackedFloat.mul, unsigned]
      exact roundWithAccuracy_of_canonical canonical 23
  rw [exact, unpack_pack canonical]

theorem le_mul_one_iff
    (a b : Float32) :
    a ≤ b * 1.0 ↔ a ≤ b := by
  rw [le_iff_position, le_iff_position, unpack_mul_one]

/-- A finite value with all its bits and an exponent in a range. -/
def Normal (low high : ℤ) : UnpackedFloat → Prop
  | .finite _ mantissa exponent _ =>
      2 ^ 23 ≤ mantissa ∧ mantissa < 2 ^ 24 ∧ low ≤ exponent ∧ exponent ≤ high
  | _ => False

theorem mantissa_shiftRight
    (extended : ExtendedMantissa)
    (shift : ℕ) :
    (extended >>> shift).mantissa = extended.mantissa / 2 ^ shift := by
  induction shift with
  | zero =>
      rw [pow_zero, Nat.div_one]
      rfl
  | succ shift inductionHypothesis =>
      change (extended >>> shift).mantissa / 2 = _
      rw [inductionHypothesis, Nat.div_div_eq_div_mul, pow_succ]

theorem roundedMantissa_bounds
    (extended : ExtendedMantissa) :
    extended.mantissa ≤ extended.roundedMantissa ∧
      extended.roundedMantissa ≤ extended.mantissa + 1 := by
  obtain ⟨mantissa, round, sticky⟩ := extended
  cases round <;> cases sticky <;>
    simp [ExtendedMantissa.roundedMantissa, ExtendedMantissa.accuracy,
      Accuracy.roundToNearestEven]
  omega

theorem targetExponent_of_bits
    {mantissa : ℕ}
    {exponent : ℤ}
    (bits : 23 ≤ mantissa.log2)
    (exponent_ge : -149 ≤ exponent) :
    Format.binary32.targetExponent (totalExponent mantissa exponent) =
      exponent + (mantissa.log2 - 23 : ℕ) := by
  simp only [Format.targetExponent, totalExponent, Format.mantissaBits, Format.minExponent]
  omega

theorem shiftToTargetExponent_of_bits
    {mantissa : ℕ}
    (accuracy : Accuracy)
    (bits : 23 ≤ mantissa.log2)
    {exponent : ℤ}
    (exponent_ge : -149 ≤ exponent) :
    shiftToTargetExponent Format.binary32 mantissa exponent accuracy =
      (ExtendedMantissa.ofMantissaAndAccuracy mantissa accuracy >>> (mantissa.log2 - 23),
        exponent + (mantissa.log2 - 23 : ℕ)) := by
  simp only [shiftToTargetExponent, shiftToExponent, targetExponent_of_bits bits exponent_ge,
    add_sub_cancel_left, Int.toNat_natCast]

/-- The leading bits of a mantissa. -/
theorem leadingBits_bounds
    {mantissa : ℕ}
    (bits : 23 ≤ mantissa.log2) :
    2 ^ 23 ≤ mantissa / 2 ^ (mantissa.log2 - 23) ∧
      mantissa / 2 ^ (mantissa.log2 - 23) < 2 ^ 24 := by
  have positive : mantissa ≠ 0 := by
    rintro rfl
    simp at bits
  constructor
  · rw [Nat.le_div_iff_mul_le (Nat.two_pow_pos _), ← pow_add, Nat.add_sub_cancel' bits]
    exact Nat.log2_self_le positive
  · rw [Nat.div_lt_iff_lt_mul (Nat.two_pow_pos _), ← pow_add]
    have whole : 24 + (mantissa.log2 - 23) = mantissa.log2 + 1 := by omega
    rw [whole]
    exact Nat.lt_log2_self

/-- Rounding enough bits gives a value with all its bits. -/
theorem normal_roundWithAccuracy
    {mantissa : ℕ}
    (sign : Sign)
    (accuracy : Accuracy)
    (bits : 23 ≤ mantissa.log2)
    {exponent : ℤ}
    (exponent_ge : -149 ≤ exponent) :
    Normal exponent (exponent + (mantissa.log2 - 23 : ℕ) + 1)
      (roundWithAccuracy Format.binary32 sign mantissa exponent accuracy) := by
  have first := shiftToTargetExponent_of_bits accuracy bits exponent_ge
  generalize extended_eq : ExtendedMantissa.ofMantissaAndAccuracy mantissa accuracy >>>
    (mantissa.log2 - 23) = extended at first
  have leading : extended.mantissa = mantissa / 2 ^ (mantissa.log2 - 23) := by
    rw [← extended_eq, mantissa_shiftRight]
    rcases accuracy with _ | order
    · rfl
    · cases order <;> rfl
  have rounded_ge : 2 ^ 23 ≤ extended.roundedMantissa :=
    (leading ▸ (leadingBits_bounds bits).1).trans (roundedMantissa_bounds extended).1
  have rounded_le : extended.roundedMantissa ≤ 2 ^ 24 :=
    (roundedMantissa_bounds extended).2.trans (leading ▸ (leadingBits_bounds bits).2)
  have rounded_bits : 23 ≤ extended.roundedMantissa.log2 :=
    (Nat.le_log2 (by omega)).mpr rounded_ge
  have rounded_few : extended.roundedMantissa.log2 < 25 :=
    (Nat.log2_lt (by omega)).mpr (by omega)
  have shifted_ge : -149 ≤ exponent + (mantissa.log2 - 23 : ℕ) := by omega
  have second := shiftToTargetExponent_of_bits .exact rounded_bits shifted_ge
  have bounds := leadingBits_bounds rounded_bits
  have final : (ExtendedMantissa.ofMantissaAndAccuracy extended.roundedMantissa .exact >>>
      (extended.roundedMantissa.log2 - 23)).mantissa =
      extended.roundedMantissa / 2 ^ (extended.roundedMantissa.log2 - 23) := by
    rw [mantissa_shiftRight]
    rfl
  have notZero : extended.roundedMantissa / 2 ^ (extended.roundedMantissa.log2 - 23) ≠ 0 := by
    omega
  simp only [roundWithAccuracy, first, second, final, notZero, dif_neg, not_false_eq_true]
  exact ⟨bounds.1, bounds.2, by omega, by omega⟩

section

variable {low high low' high' : ℤ} {value other : UnpackedFloat}

/-- A value with all its bits is finite. -/
theorem Normal.finite
    (normal : Normal low high value) :
    ∃ sign mantissa exponent positive, value = .finite sign mantissa exponent positive ∧
      2 ^ 23 ≤ mantissa ∧ mantissa < 2 ^ 24 ∧ low ≤ exponent ∧ exponent ≤ high := by
  cases value with
  | finite sign mantissa exponent positive =>
      exact ⟨sign, mantissa, exponent, positive, rfl, normal⟩
  | _ => exact normal.elim

theorem Normal.canonical
    (normal : Normal low high value)
    (low_ge : -149 ≤ low)
    (high_le : high ≤ 104) :
    Canonical value := by
  cases value with
  | finite sign mantissa exponent positive =>
      obtain ⟨mantissa_ge, mantissa_lt, exponent_ge, exponent_le⟩ := normal
      exact ⟨mantissa_lt, by omega, by omega, .inl mantissa_ge⟩
  | _ => trivial

theorem Normal.mono
    (normal : Normal low high value)
    (low_le : low' ≤ low)
    (high_le : high ≤ high') :
    Normal low' high' value := by
  cases value with
  | finite sign mantissa exponent positive =>
      obtain ⟨mantissa_ge, mantissa_lt, exponent_ge, exponent_le⟩ := normal
      exact ⟨mantissa_ge, mantissa_lt, by omega, by omega⟩
  | _ => exact normal

/-- A whole number other than zero converts to a value with all its bits. -/
theorem normal_ofNat
    {number : ℕ}
    (positive : 0 < number) :
    Normal (-23) ((number.log2 - 23 : ℕ) + 1) (UnpackedFloat.ofNat Format.binary32 number) := by
  have notZero : compare (number : ℤ) 0 = .gt := compare_gt_iff_gt.mpr (by omega)
  have target : Format.binary32.targetExponent (totalExponent number 0) = number.log2 - 23 := by
    simp only [Format.targetExponent, totalExponent, Format.mantissaBits, Format.minExponent]
    omega
  simp only [UnpackedFloat.ofNat, UnpackedFloat.ofInt, UnpackedFloat.normalize, notZero,
    Int.toNat_natCast, UnpackedFloat.round, target, decreaseExponent, Nat.shiftLeft_eq]
  generalize amount_eq : (0 - ((number.log2 : ℤ) - 23)).toNat = amount
  have bits := log2_mul_two_pow positive amount
  have enough : 23 ≤ (number * 2 ^ amount).log2 := by omega
  have exponent_ge : -149 ≤ (0 : ℤ) - amount := by omega
  have normal := normal_roundWithAccuracy .positive .exact enough exponent_ge
  exact normal.mono (by omega) (by omega)

theorem Normal.div
    (normal : Normal low high value)
    (otherNormal : Normal low' high' other)
    (low_ge : -125 ≤ low - high') :
    Normal (low - high' - 24) (high - low' - 22)
      (UnpackedFloat.div Format.binary32 value other) := by
  obtain ⟨sign, mantissa, exponent, positive, rfl, mantissa_ge, mantissa_lt, exponent_ge,
    exponent_le⟩ := normal.finite
  obtain ⟨otherSign, divisor, otherExponent, divisor_pos, rfl, divisor_ge, divisor_lt,
    otherExponent_ge, otherExponent_le⟩ := otherNormal.finite
  have mantissa_bits : mantissa.log2 = 23 :=
    (Nat.log2_eq_iff positive.ne').mpr ⟨mantissa_ge, mantissa_lt⟩
  have divisor_bits : divisor.log2 = 23 :=
    (Nat.log2_eq_iff divisor_pos.ne').mpr ⟨divisor_ge, divisor_lt⟩
  have target : min (exponent - otherExponent) (Format.binary32.targetExponent
      (totalExponent mantissa exponent - totalExponent divisor otherExponent)) =
      exponent - otherExponent - 24 := by
    simp only [Format.targetExponent, totalExponent, Format.mantissaBits,
      Format.minExponent, mantissa_bits, divisor_bits]
    omega
  have amount : (exponent - otherExponent - (exponent - otherExponent - 24)).toNat = 24 := by
    omega
  have quotient_ge : 2 ^ 23 ≤ mantissa * 2 ^ 24 / divisor := by
    rw [Nat.le_div_iff_mul_le divisor_pos]
    omega
  have quotient_lt : mantissa * 2 ^ 24 / divisor < 2 ^ 25 := by
    rw [Nat.div_lt_iff_lt_mul divisor_pos]
    omega
  have quotient_bits : 23 ≤ (mantissa * 2 ^ 24 / divisor).log2 :=
    (Nat.le_log2 (by omega)).mpr quotient_ge
  have quotient_few : (mantissa * 2 ^ 24 / divisor).log2 < 25 :=
    (Nat.log2_lt (by omega)).mpr quotient_lt
  simp only [UnpackedFloat.div, divCore, target, amount, Nat.shiftLeft_eq]
  have shifted_ge : -149 ≤ exponent - otherExponent - 24 := by omega
  have rounded := normal_roundWithAccuracy (sign / otherSign)
    (accuracyOfFraction (mantissa * 2 ^ 24 % divisor) divisor) quotient_bits shifted_ge
  exact rounded.mono (by omega) (by omega)

end

/-- A value with all its bits is not zero. -/
theorem beq_zero_of_normal
    {a : Float32}
    {low high : ℤ}
    (normal : Normal low high a.toModel.unpack) :
    (a == 0.0) = false := by
  change UnpackedFloat.beq _ _ = false
  have zero : (0.0 : Float32).toModel.unpack = .zero .positive := rfl
  rw [zero]
  obtain ⟨sign, mantissa, exponent, positive, unpacked, _⟩ := normal.finite
  rw [unpacked]
  cases sign <;> rfl

/-- A 32-bit number other than zero converts to a value with all its bits. -/
theorem normal_toFloat32
    {number : UInt32}
    (notZero : number ≠ 0) :
    Normal (-23) 9 number.toFloat32.toModel.unpack := by
  have positive : 0 < number.toNat := by
    rcases Nat.eq_zero_or_pos number.toNat with zero | positive
    · exact absurd (UInt32.toNat_inj.mp zero) notZero
    · exact positive
  have bits : number.toNat.log2 < 32 := (Nat.log2_lt positive.ne').mpr number.toNat_lt
  have normal : Normal (-23) 9 (UnpackedFloat.ofNat Format.binary32 number.toNat) :=
    (normal_ofNat positive).mono le_rfl (by omega)
  change Normal _ _ (Float32.Model.pack (UnpackedFloat.ofNat _ _)).unpack
  rwa [unpack_pack (normal.canonical (by decide) (by decide))]

theorem normal_div
    {a b : Float32}
    {low high low' high' : ℤ}
    (normal : Normal low high a.toModel.unpack)
    (otherNormal : Normal low' high' b.toModel.unpack)
    (low_ge : -125 ≤ low - high')
    (high_le : high - low' ≤ 126) :
    Normal (low - high' - 24) (high - low' - 22) (a / b).toModel.unpack := by
  have divided := normal.div otherNormal low_ge
  change Normal _ _ (Float32.Model.pack (UnpackedFloat.div _ _ _)).unpack
  rwa [unpack_pack (divided.canonical (by omega) (by omega))]

theorem unpack_packComponents_ne_notANumber
    {exponent : BitVec 8}
    (sign : Sign)
    (mantissa : BitVec 23)
    (finite : exponent ≠ 255#8) :
    UnpackedFloat.unpack Format.binary32
      (packComponents Format.binary32 sign exponent mantissa) ≠ .notANumber := by
  simp [UnpackedFloat.unpack, finite]
  split_ifs <;> simp

/-- Packing never makes a NaN of a number. -/
theorem unpack_pack_ne_notANumber
    {value : UnpackedFloat}
    (isNumber : value ≠ .notANumber) :
    (Float32.Model.pack value).unpack ≠ .notANumber := by
  rcases value with sign | _ | sign | ⟨sign, mantissa, exponent, positive⟩
  · rw [@unpack_pack (.infinity sign) trivial]
    exact isNumber
  · exact absurd rfl isNumber
  · rw [@unpack_pack (.zero sign) trivial]
    exact isNumber
  · by_cases overflow : 2 ^ 8 ≤ (exponent + (127 : ℕ) + (23 : ℕ)).toNat + 1
    · have infinite : Float32.Model.pack (.finite sign mantissa exponent positive) =
          Float32.Model.pack (.infinity sign) := by
        simp only [Float32.Model.pack, UnpackedFloat.pack, exponentBias_binary32,
          overflow, if_true]
      rw [infinite, @unpack_pack (.infinity sign) trivial]
      simp
    by_cases bits : mantissa.log2 + 1 = Format.binary32.mantissaBits
    · simp only [Float32.Model.pack, Float32.Model.unpack, UnpackedFloat.pack,
        exponentBias_binary32, overflow, bits, if_false, if_true]
      refine unpack_packComponents_ne_notANumber sign (BitVec.ofNat 23 mantissa) ?_
      rw [Ne, ← BitVec.toNat_inj, BitVec.toNat_ofNat, BitVec.toNat_ofNat]
      omega
    · simp only [Float32.Model.pack, Float32.Model.unpack, UnpackedFloat.pack,
        exponentBias_binary32, overflow, bits, if_false]
      exact unpack_packComponents_ne_notANumber sign _ (by decide)

/-- Conversion of a signed 32-bit number. -/
def ofInt32 (number : Int32) : Float32 :=
  .ofModel (.ofInt32 number)

theorem isNumber_ofInt32
    (number : Int32) :
    (ofInt32 number).toModel.unpack ≠ .notANumber := by
  change (Float32.Model.pack (UnpackedFloat.ofInt32 Format.binary32 number)).unpack ≠ _
  apply unpack_pack_ne_notANumber
  unfold UnpackedFloat.ofInt32 UnpackedFloat.ofInt UnpackedFloat.normalize
  split <;> simp [UnpackedFloat.round, roundWithAccuracy] <;> split <;> simp

/-- A number divided by a value with all its bits is a number. -/
theorem isNumber_div
    {a b : Float32}
    {low high : ℤ}
    (isNumber : a.toModel.unpack ≠ .notANumber)
    (normal : Normal low high b.toModel.unpack) :
    (a / b).toModel.unpack ≠ .notANumber := by
  change (Float32.Model.pack (UnpackedFloat.div Format.binary32 a.toModel.unpack
    b.toModel.unpack)).unpack ≠ _
  apply unpack_pack_ne_notANumber
  obtain ⟨otherSign, divisor, otherExponent, divisor_pos, unpacked, _⟩ := normal.finite
  rw [unpacked]
  generalize a.toModel.unpack = value at isNumber
  rcases value with _ | _ | _ | ⟨sign, mantissa, exponent, positive⟩
  · simp [UnpackedFloat.div]
  · exact absurd rfl isNumber
  · simp [UnpackedFloat.div]
  · simp [UnpackedFloat.div, roundWithAccuracy]
    split <;> simp

end Single
end Lib
end OneDesk
