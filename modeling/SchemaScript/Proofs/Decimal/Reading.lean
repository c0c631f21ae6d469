import SchemaScript.Proofs.Decimal.Arithmetic

namespace SchemaScript

/-!
# Reading decimals as floating-point numbers

A decimal is read as the floating-point number that attracts its value,
whatever its digits and its power of ten are.  Digits and powers of ten that
floating-point numbers hold exactly are first turned into such numbers, and
others are multiplied or divided as they are; both ways round only once.
-/

open Float.Model (Format UnpackedFloat totalExponent)
open Float.Model.UnpackedFloat

namespace Binary

/-- A number attracts its own value. -/
theorem Attracts.of_eq
    {number : Binary}
    {value : ℚ}
    (exact : value = number.mantissa * 2 ^ number.exponent) :
    number.Attracts value := by
  have scale : (0 : ℚ) < 2 ^ number.exponent := zpow_pos two_pos _
  have own : value / 2 ^ number.exponent = number.mantissa := by
    rw [exact, mul_div_cancel_right₀ _ scale.ne']
  rw [attracts_iff, own]
  refine ⟨.inl ?_, .inl (by linarith)⟩
  rcases number.reach_eq with ⟨short, -⟩ | ⟨full, -⟩
  · rw [short]
    push_cast
    linarith
  · rw [full]
    push_cast
    linarith

/-- Up to 53 binary digits and some zeros after them are held exactly. -/
theorem exists_canonical
    {digits zeros : ℕ}
    (positive : 0 < digits)
    (small : digits < 2 ^ 53)
    (few : zeros ≤ 900) :
    ∃ number : Binary,
      number.Canonical ∧ 2 ^ 52 ≤ number.mantissa ∧
        (digits * 2 ^ zeros : ℚ) = number.mantissa * 2 ^ number.exponent := by
  have atMost : digits.log2 < 53 := (Nat.log2_lt positive.ne').mpr small
  have low : 2 ^ digits.log2 ≤ digits := Nat.log2_self_le positive.ne'
  have high : digits < 2 ^ (digits.log2 + 1) := Nat.lt_log2_self
  obtain ⟨shift, isShift⟩ : ∃ shift, digits.log2 + shift = 52 := ⟨52 - digits.log2, by omega⟩
  have full : 2 ^ 52 ≤ digits * 2 ^ shift := by
    rw [← isShift, pow_add]
    gcongr
  have bounded : digits * 2 ^ shift < 2 ^ 53 := by
    have : 53 = digits.log2 + 1 + shift := by omega
    rw [this, pow_add]
    gcongr
  refine
    ⟨⟨digits * 2 ^ shift, (zeros : ℤ) - shift, decide (digits * 2 ^ shift = 2 ^ 52)⟩, ?_, full, ?_⟩
  · constructor <;> dsimp only
    · positivity
    · exact bounded
    · omega
    · omega
    · exact .inl full
    · simp
      omega
  · have nonzero : (2 : ℚ) ^ shift ≠ 0 := by positivity
    dsimp only
    rw [zpow_sub₀ two_ne_zero, zpow_natCast, zpow_natCast]
    push_cast
    field_simp

end Binary

namespace Rounding

/-- Each place that a number is shifted to the left makes it one bit longer. -/
theorem log2_shiftLeft
    {digits : ℕ}
    (positive : 0 < digits)
    (shift : ℕ) :
    (digits <<< shift).log2 = digits.log2 + shift := by
  have low : 2 ^ digits.log2 ≤ digits := Nat.log2_self_le positive.ne'
  have high : digits < 2 ^ (digits.log2 + 1) := Nat.lt_log2_self
  rw [Nat.shiftLeft_eq, Nat.log2_eq_iff (by positivity)]
  constructor
  · rw [pow_add]
    gcongr
  · rw [add_right_comm, pow_add _ (digits.log2 + 1)]
    gcongr

/-- A natural number is taken as the number that attracts it. -/
theorem ofNat_eq
    {number : Binary}
    {digits : ℕ}
    (canonical : number.Canonical)
    (positive : 0 < digits)
    (attracts : number.Attracts digits) :
    Float.ofModel (Float.Model.ofNat digits) = canonical.float .positive := by
  have sign : compare (digits : ℤ) 0 = .gt := by
    rw [compare_gt_iff_gt]
    exact_mod_cast positive
  have normalized :
      UnpackedFloat.ofNat Format.binary64 digits =
        UnpackedFloat.round Format.binary64 .positive digits 0 := by
    rw [UnpackedFloat.ofNat, UnpackedFloat.ofInt, UnpackedFloat.normalize, sign]
    rfl
  have rounded :
      UnpackedFloat.round Format.binary64 .positive digits 0 = canonical.unpacked .positive := by
    rw [UnpackedFloat.round, targetExponent_eq, decreaseExponent]
    obtain ⟨shift, isShift⟩ :
        ∃ shift, (0 - max ((digits.log2 : ℤ) + 0 - 52) (-1074)).toNat = shift := ⟨_, rfl⟩
    have width := log2_shiftLeft positive shift
    rw [isShift]
    refine roundWithAccuracy_eq _ canonical ?_ (by omega) attracts
    have nonzero : (2 : ℚ) ^ shift ≠ 0 := by positivity
    change _ = ((digits <<< shift : ℕ) : ℚ)
    rw [Nat.shiftLeft_eq, zero_sub, zpow_neg, zpow_natCast]
    push_cast
    field_simp
  rw [Float.Model.ofNat, normalized, rounded]
  rfl

/-- The powers of ten that are held in a table are those powers. -/
theorem exactlyRepresentablePowersOfTen_eq :
    ∀ power : Fin Float.exactlyRepresentablePowersOfTen.size,
      Float.exactlyRepresentablePowersOfTen[power] =
        Float.ofModel (Float.Model.ofNat (10 ^ (power : ℕ))) := by
  decide +kernel

/-- Numbers that floating-point numbers hold exactly are held with full mantissas. -/
theorem exists_ofNat_eq
    {digits zeros : ℕ}
    (positive : 0 < digits)
    (small : digits < 2 ^ 53)
    (few : zeros ≤ 900) :
    ∃ (number : Binary) (canonical : number.Canonical),
      Float.ofModel (Float.Model.ofNat (digits * 2 ^ zeros)) = canonical.float .positive ∧
        2 ^ 52 ≤ number.mantissa ∧
        (digits * 2 ^ zeros : ℚ) = number.mantissa * 2 ^ number.exponent := by
  obtain ⟨number, canonical, full, exact⟩ := Binary.exists_canonical positive small few
  have attracts : number.Attracts ((digits * 2 ^ zeros : ℕ) : ℚ) :=
    Binary.Attracts.of_eq (by exact_mod_cast exact)
  exact ⟨number, canonical, ofNat_eq canonical (by positivity) attracts, full, exact⟩

/-- Numbers with full mantissas are multiplied with one rounding. -/
theorem mul_float_eq
    {first second number : Binary}
    {firstCanonical : first.Canonical}
    {secondCanonical : second.Canonical}
    (canonical : number.Canonical)
    (full : 2 ^ 52 ≤ first.mantissa)
    (attracts :
      number.Attracts
        (first.mantissa * 2 ^ first.exponent * (second.mantissa * 2 ^ second.exponent))) :
    firstCanonical.float .positive * secondCanonical.float .positive =
      canonical.float .positive := by
  have wide : 2 ^ 52 ≤ first.mantissa * second.mantissa :=
    le_mul_of_le_of_one_le full secondCanonical.positive
  change Float.ofModel (Float.Model.pack (UnpackedFloat.mul Format.binary64
    (firstCanonical.float .positive).toModel.unpack
    (secondCanonical.float .positive).toModel.unpack)) = _
  rw [Binary.Canonical.unpack_float, Binary.Canonical.unpack_float, Binary.Canonical.unpacked,
    Binary.Canonical.unpacked, mul_eq canonical wide attracts]
  rfl

/-- Numbers are divided with one rounding. -/
theorem div_float_eq
    {first second number : Binary}
    {firstCanonical : first.Canonical}
    {secondCanonical : second.Canonical}
    (canonical : number.Canonical)
    (attracts :
      number.Attracts
        (first.mantissa * 2 ^ first.exponent / (second.mantissa * 2 ^ second.exponent))) :
    firstCanonical.float .positive / secondCanonical.float .positive =
      canonical.float .positive := by
  change Float.ofModel (Float.Model.pack (UnpackedFloat.div Format.binary64
    (firstCanonical.float .positive).toModel.unpack
    (secondCanonical.float .positive).toModel.unpack)) = _
  rw [Binary.Canonical.unpack_float, Binary.Canonical.unpack_float, Binary.Canonical.unpacked,
    Binary.Canonical.unpacked, div_eq canonical attracts]
  rfl

/-- Small whole numbers are converted to the float that the model gives for them. -/
theorem toFloat_eq_ofNat
    {digits : ℕ}
    (small : digits < 2 ^ 53) :
    digits.toUInt64.toFloat = Float.ofModel (Float.Model.ofNat digits) := by
  have same : digits.toUInt64.toNat = digits := by
    rw [Nat.toUInt64, UInt64.toNat_ofNat']
    omega
  change Float.ofModel (Float.Model.ofNat digits.toUInt64.toNat) = _
  rw [same]

section Scientific

variable
    {number : Binary}
    {digits power : ℕ}
    {isNegative : Bool}

/-- Digits and powers of ten that are held exactly are multiplied and divided as such. -/
theorem ofScientific_eq_of_exact
    (canonical : number.Canonical)
    (positive : 0 < digits)
    (small : digits < 2 ^ 53 ∧ power ≤ 22)
    (attracts :
      number.Attracts
        (if isNegative then (digits / 10 ^ power : ℚ) else digits * 10 ^ power)) :
    Float.ofScientific digits isNegative power = canonical.float .positive := by
  obtain ⟨first, firstCanonical, isFirst, full, firstExact⟩ :=
    exists_ofNat_eq positive small.1 (Nat.zero_le 900)
  -- A power of ten is held as its odd part with zeros after it; up to 22 the odd part fits.
  have fives : 5 ^ power < 2 ^ 53 :=
    lt_of_le_of_lt (Nat.pow_le_pow_right (by decide) small.2) (by norm_num)
  obtain ⟨second, secondCanonical, isSecond, -, secondExact⟩ :=
    exists_ofNat_eq (by positivity) fives (by omega : power ≤ 900)
  have inTable : power < Float.exactlyRepresentablePowersOfTen.size := by
    have size : Float.exactlyRepresentablePowersOfTen.size = 23 := rfl
    omega
  rw [pow_zero, mul_one] at isFirst firstExact
  have ten : 5 ^ power * 2 ^ power = 10 ^ power := (Nat.mul_pow 5 2 power).symm
  rw [ten] at isSecond
  have tenExact : (10 ^ power : ℚ) = second.mantissa * 2 ^ second.exponent := by
    rw [← secondExact]
    exact_mod_cast ten.symm
  rw [Float.ofScientific, dif_pos small, toFloat_eq_ofNat small.1, isFirst,
    show Float.exactlyRepresentablePowersOfTen[power] = secondCanonical.float .positive from
      (exactlyRepresentablePowersOfTen_eq ⟨power, inTable⟩).trans isSecond]
  rw [firstExact, tenExact] at attracts
  cases isNegative with
  | false =>
      exact mul_float_eq canonical full attracts
  | true =>
      exact div_float_eq canonical attracts

/-- Other digits and powers of ten are multiplied and divided as they are. -/
theorem model_ofScientific_eq
    {exponent : ℤ}
    (canonical : number.Canonical)
    (positive : 0 < digits)
    (notGreat : exponent ≤ 2048)
    (notSmall : -(2048 + digits.log2 : ℤ) ≤ exponent)
    (attracts : number.Attracts (digits * 10 ^ exponent)) :
    Float.Model.ofScientific digits exponent = Float.Model.pack (canonical.unpacked .positive) := by
  have tooGreat : ¬ exponent > 2 ^ Format.binary64.exponentBits := by
    change ¬ exponent > 2048
    omega
  have tooSmall :
      ¬ exponent < -((2 ^ Format.binary64.exponentBits : ℤ) + digits.log2) := by
    change ¬ exponent < -(2048 + digits.log2 : ℤ)
    omega
  rw [Float.Model.ofScientific, UnpackedFloat.ofScientific, dif_neg positive.ne', if_neg tooGreat,
    if_neg tooSmall]
  split
  next whole =>
    obtain ⟨power, rfl⟩ := Int.eq_ofNat_of_zero_le whole
    congr 1
    have shifted : digits <<< Format.binary64.mantissaBits = digits * 2 ^ 53 :=
      Nat.shiftLeft_eq digits 53
    apply mul_eq canonical
    · rw [shifted]
      calc
        2 ^ 52 ≤ 1 * 2 ^ 53 * 1 := by norm_num
        _ ≤ digits * 2 ^ 53 * 10 ^ (power : ℤ).toNat := by
          gcongr
          · exact positive
          · exact Nat.one_le_pow _ _ (by decide)
    · rw [shifted]
      convert attracts using 1
      change
        ((digits * 2 ^ 53 : ℕ) : ℚ) * 2 ^ (-53 : ℤ) * (((10 ^ power : ℕ) : ℚ) * 2 ^ (0 : ℤ)) = _
      rw [zpow_neg, zpow_zero, zpow_natCast]
      push_cast
      ring
  next fraction =>
    obtain ⟨power, isPower⟩ : ∃ power : ℕ, exponent = -power := ⟨(-exponent).toNat, by omega⟩
    subst isPower
    congr 1
    apply div_eq canonical
    convert attracts using 1
    rw [neg_neg, Int.toNat_natCast, zpow_zero, zpow_neg, zpow_natCast]
    push_cast
    field_simp

/-- A decimal is read as the number that attracts its value. -/
theorem ofScientific_eq
    {decimal : Decimal}
    (canonical : number.Canonical)
    (positive : 0 < decimal.digits)
    (notGreat : decimal.exponent ≤ 2048)
    (notSmall : -(2048 + decimal.digits.log2 : ℤ) ≤ decimal.exponent)
    (attracts : number.Attracts (decimal.digits * 10 ^ decimal.exponent)) :
    Float.ofScientific decimal.digits (decimal.exponent < 0) decimal.exponent.natAbs =
      canonical.float .positive := by
  by_cases small : decimal.digits < 2 ^ 53 ∧ decimal.exponent.natAbs ≤ 22
  · apply ofScientific_eq_of_exact canonical positive small
    rcases lt_or_ge decimal.exponent 0 with fraction | whole
    · have isPower : decimal.exponent = -(decimal.exponent.natAbs : ℤ) := by omega
      rw [isPower, zpow_neg, zpow_natCast, ← div_eq_mul_inv] at attracts
      simpa [fraction] using attracts
    · have isPower : decimal.exponent = decimal.exponent.natAbs := by omega
      rw [isPower, zpow_natCast] at attracts
      simpa [whole.not_gt] using attracts
  · have signed :
        (if decide (decimal.exponent < 0) then Int.negOfNat decimal.exponent.natAbs
          else Int.ofNat decimal.exponent.natAbs) = decimal.exponent := by
      rcases lt_or_ge decimal.exponent 0 with fraction | whole
      · simp only [fraction, decide_true, if_true, Int.negOfNat_eq, Int.ofNat_eq_natCast]
        omega
      · simp only [whole.not_gt, decide_false, Bool.false_eq_true, if_false, Int.ofNat_eq_natCast]
        omega
    rw [Float.ofScientific, dif_neg small]
    dsimp only
    rw [signed, model_ofScientific_eq canonical positive notGreat notSmall attracts]
    rfl

end Scientific

end Rounding

/-! ## Decimals of any size -/

namespace Binary

variable
    {number : Binary}
    {value : ℚ}

/-- What is attracted lies above half of the least number. -/
theorem Attracts.lower_bound
    (canonical : number.Canonical)
    (attracts : number.Attracts value) :
    2 ^ (-1075 : ℤ) ≤ value := by
  have mantissa : (1 : ℚ) ≤ number.mantissa := by
    exact_mod_cast canonical.positive
  calc
    (2 : ℚ) ^ (-1075 : ℤ) = 1 / 2 * 2 ^ (-1074 : ℤ) := by
      rw [one_div, ← zpow_neg_one, ← zpow_add₀ two_ne_zero]
      norm_num
    _ ≤ 1 / 2 * 2 ^ number.exponent := by
      have := zpow_le_zpow_right₀ (one_le_two : (1 : ℚ) ≤ 2) canonical.le_exponent
      gcongr
    _ ≤ (number.mantissa - 1 / 2) * 2 ^ number.exponent := by
      gcongr
      linarith
    _ ≤ value := attracts.half_below_le

/-- What is attracted lies below the overflow. -/
theorem Attracts.upper_bound
    (canonical : number.Canonical)
    (attracts : number.Attracts value) :
    value < 2 ^ (1024 : ℤ) := by
  have mantissa : (number.mantissa : ℚ) + 1 ≤ 2 ^ 53 := by
    exact_mod_cast canonical.mantissa_lt
  calc
    value ≤ (number.mantissa + 1 / 2) * 2 ^ number.exponent := attracts.le_half_above
    _ < 2 ^ 53 * 2 ^ number.exponent := by
      gcongr
      linarith
    _ ≤ 2 ^ 53 * 2 ^ (971 : ℤ) := by
      have := zpow_le_zpow_right₀ (one_le_two : (1 : ℚ) ≤ 2) canonical.exponent_le
      gcongr
    _ = 2 ^ (1024 : ℤ) := by
      rw [← zpow_natCast, ← zpow_add₀ two_ne_zero]
      norm_num

end Binary

namespace Decimal

/-- The number that a decimal stands for. -/
def value (decimal : Decimal) : ℚ :=
  decimal.digits * 10 ^ decimal.exponent

/-- A number lies between the powers of ten that its count of digits tells. -/
theorem digitCount_bounds
    {digits : ℕ}
    (positive : 0 < digits) :
    10 ^ (digitCount digits - 1) ≤ digits ∧ digits < 10 ^ digitCount digits := by
  have count : 0 < digitCount digits := Nat.length_toDigits_pos
  constructor
  · by_cases one : digitCount digits = 1
    · rw [one]
      exact positive
    · by_contra below
      have fewer : digitCount digits ≤ digitCount digits - 1 :=
        (Nat.length_toDigits_le_iff (by decide) (by omega)).mpr (Nat.lt_of_not_le below)
      omega
  · exact (Nat.length_toDigits_le_iff (by decide) count).mp le_rfl

/-- A decimal lies between the powers of ten that the number of its digits tells. -/
theorem value_bounds
    {decimal : Decimal}
    (positive : 0 < decimal.digits) :
    10 ^ (decimal.exponent + (digitCount decimal.digits : ℤ) - 1) ≤ decimal.value ∧
      decimal.value < 10 ^ (decimal.exponent + (digitCount decimal.digits : ℤ)) := by
  have ten : (10 : ℚ) ≠ 0 := by norm_num
  have scale : (0 : ℚ) < 10 ^ decimal.exponent := zpow_pos (by norm_num) _
  have count : 0 < digitCount decimal.digits := Nat.length_toDigits_pos
  obtain ⟨leading, all⟩ := digitCount_bounds positive
  have predecessor :
      decimal.exponent + (digitCount decimal.digits : ℤ) - 1 =
        ((digitCount decimal.digits - 1 : ℕ) : ℤ) + decimal.exponent := by
    omega
  rw [predecessor, add_comm decimal.exponent, zpow_add₀ ten, zpow_add₀ ten, zpow_natCast,
    zpow_natCast, value]
  constructor
  · gcongr
    exact_mod_cast leading
  · gcongr
    exact_mod_cast all

/-- A power of ten is at least as large as the power of two with three times its exponent. -/
theorem two_zpow_le_ten_zpow
    {power : ℤ}
    (nonnegative : 0 ≤ power) :
    (2 : ℚ) ^ (3 * power) ≤ 10 ^ power := by
  rw [zpow_mul]
  exact zpow_le_zpow_left₀ nonnegative (by norm_num) (by norm_num)

/-- A decimal that is attracted has digits, and not too large a size. -/
theorem size_bounds
    {number : Binary}
    {decimal : Decimal}
    (canonical : number.Canonical)
    (attracts : number.Attracts decimal.value) :
    0 < decimal.digits ∧
      -400 ≤ decimal.exponent + (digitCount decimal.digits : ℤ) ∧
      decimal.exponent + (digitCount decimal.digits : ℤ) ≤ 400 := by
  have low := attracts.lower_bound canonical
  have high := attracts.upper_bound canonical
  have positive : 0 < decimal.digits := by
    by_contra none
    rw [value, Nat.eq_zero_of_not_pos none, Nat.cast_zero, zero_mul] at low
    exact low.not_gt (zpow_pos two_pos _)
  obtain ⟨atLeast, atMost⟩ := value_bounds positive
  refine ⟨positive, ?_, ?_⟩
  · by_contra small
    have tiny : (10 : ℚ) ^ (decimal.exponent + (digitCount decimal.digits : ℤ)) ≤
        10 ^ (-400 : ℤ) :=
      zpow_le_zpow_right₀ (by norm_num) (by omega)
    have least : (10 : ℚ) ^ (-400 : ℤ) ≤ 2 ^ (-1075 : ℤ) := by
      rw [zpow_neg, zpow_neg]
      refine inv_anti₀ (zpow_pos two_pos _) ?_
      calc
        (2 : ℚ) ^ (1075 : ℤ) ≤ 2 ^ (3 * 400 : ℤ) :=
          zpow_le_zpow_right₀ one_le_two (by norm_num)
        _ ≤ 10 ^ (400 : ℤ) := two_zpow_le_ten_zpow (by norm_num)
    exact (low.trans_lt atMost).not_ge (tiny.trans least)
  · by_contra great
    have huge : (10 : ℚ) ^ (400 : ℤ) ≤
        10 ^ (decimal.exponent + (digitCount decimal.digits : ℤ) - 1) :=
      zpow_le_zpow_right₀ (by norm_num) (by omega)
    have greatest : (2 : ℚ) ^ (1024 : ℤ) ≤ 10 ^ (400 : ℤ) := by
      calc
        (2 : ℚ) ^ (1024 : ℤ) ≤ 2 ^ (3 * 400 : ℤ) :=
          zpow_le_zpow_right₀ one_le_two (by norm_num)
        _ ≤ 10 ^ (400 : ℤ) := two_zpow_le_ten_zpow (by norm_num)
    exact (atLeast.trans_lt high).not_ge (greatest.trans huge)

/-- A decimal that is attracted is read as the number that attracts it. -/
theorem nearest?_eq
    {number : Binary}
    {decimal : Decimal}
    (canonical : number.Canonical)
    (attracts : number.Attracts decimal.value) :
    decimal.nearest? = some (canonical.float .positive) := by
  obtain ⟨positive, notSmall, notGreat⟩ := size_bounds canonical attracts
  have count : 0 < digitCount decimal.digits := Nat.length_toDigits_pos
  have digits : digitCount decimal.digits - 1 ≤ decimal.digits.log2 := by
    rw [Nat.le_log2 positive.ne']
    calc
      2 ^ (digitCount decimal.digits - 1) ≤ 10 ^ (digitCount decimal.digits - 1) :=
        Nat.pow_le_pow_left (by decide) _
      _ ≤ decimal.digits := (digitCount_bounds positive).1
  have read := Rounding.ofScientific_eq canonical positive (by omega) (by omega) attracts
  rw [nearest?]
  simp only [positive.ne', false_or, read]
  rw [if_neg (by omega), if_neg (by omega), canonical.isInf_float]
  rfl

end Decimal

end SchemaScript
