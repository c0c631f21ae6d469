import SchemaScript.Decimal.Reading
import SchemaScript.Proofs.Decimal.Rounding

namespace SchemaScript

/-!
# Arithmetic that reads decimals

A decimal is read by multiplying or dividing its digits by a power of ten.  The
exact product or quotient is the value of the decimal, so that reading gives the
floating-point number that attracts this value.
-/

open Float.Model (Format UnpackedFloat totalExponent)
open Float.Model.UnpackedFloat

/-! ## Encoding in 64 bits -/

namespace Rounding

/-- The bits of a packed number are its sign, its exponent and its mantissa, one after the other. -/
theorem toNat_packComponents
    (sign : Sign)
    (exponent : BitVec 11)
    (mantissa : BitVec 52) :
    (packComponents Format.binary64 sign exponent mantissa).toNat =
      (sign.toBitVec.toNat * 2 ^ 11 + exponent.toNat) * 2 ^ 52 + mantissa.toNat := by
  change (sign.toBitVec ++ exponent ++ mantissa).toNat = _
  rw [BitVec.toNat_append, BitVec.toNat_append, ← Nat.shiftLeft_add_eq_or_of_lt exponent.isLt,
    ← Nat.shiftLeft_add_eq_or_of_lt mantissa.isLt, Nat.shiftLeft_eq, Nat.shiftLeft_eq]

end Rounding

namespace Binary

/-- The bits of a number without its sign, as a number. -/
def bits (number : Binary) : ℕ :=
  if 2 ^ 52 ≤ number.mantissa then
    (number.exponent + 1075).toNat * 2 ^ 52 + (number.mantissa - 2 ^ 52)
  else
    number.mantissa

namespace Canonical

variable
    {number : Binary}

/-- A number with a sign, taken apart. -/
def unpacked (canonical : number.Canonical) (sign : Sign) : UnpackedFloat :=
  .finite sign number.mantissa number.exponent canonical.positive

/-- The floating-point number of a number and a sign. -/
def float (canonical : number.Canonical) (sign : Sign) : Float :=
  Float.ofModel (Float.Model.pack (canonical.unpacked sign))

/-- A mantissa has all its bits exactly when its leading one is there. -/
theorem log2_mantissa_iff
    (canonical : number.Canonical) :
    number.mantissa.log2 + 1 = Format.binary64.mantissaBits ↔ 2 ^ 52 ≤ number.mantissa := by
  have atMost : number.mantissa.log2 < 53 :=
    (Nat.log2_lt canonical.positive.ne').mpr canonical.mantissa_lt
  have atLeast := Nat.le_log2 canonical.positive.ne' (k := 52)
  change number.mantissa.log2 + 1 = 53 ↔ _
  omega

/-- How a number is packed: its exponent is stored when its mantissa is full. -/
theorem pack_unpacked
    (canonical : number.Canonical)
    (sign : Sign) :
    pack Format.binary64 (canonical.unpacked sign) =
      if 2 ^ 52 ≤ number.mantissa then
        packComponents Format.binary64 sign (BitVec.ofNat 11 (number.exponent + 1075).toNat)
          (BitVec.ofNat 52 number.mantissa)
      else
        packComponents Format.binary64 sign 0#11 (BitVec.ofNat 52 number.mantissa) := by
  have stored :
      number.exponent + Format.binary64.exponentBias +
          Format.binary64.mantissaBitsWithoutImplicit =
        number.exponent + 1075 := by
    change number.exponent + 1023 + 52 = _
    omega
  have inRange : ¬ 2 ^ Format.binary64.exponentBits ≤ (number.exponent + 1075).toNat + 1 := by
    have := canonical.exponent_le
    change ¬ 2048 ≤ _
    omega
  simp only [unpacked, pack, stored, if_neg inRange, canonical.log2_mantissa_iff]

/-- Packing a canonical number gives its bits, with the sign in front. -/
theorem toNat_pack_unpacked
    (canonical : number.Canonical)
    (sign : Sign) :
    (pack Format.binary64 (canonical.unpacked sign)).toNat =
      sign.toBitVec.toNat * 2 ^ 63 + number.bits := by
  have mantissa := canonical.mantissa_lt
  have low := canonical.le_exponent
  have high := canonical.exponent_le
  rw [pack_unpacked, bits]
  split
  next full =>
    rw [Rounding.toNat_packComponents, BitVec.toNat_ofNat, BitVec.toNat_ofNat]
    omega
  next =>
    rw [Rounding.toNat_packComponents, BitVec.toNat_ofNat]
    simp
    omega

/-- Packing loses nothing. -/
theorem unpack_float
    (canonical : number.Canonical)
    (sign : Sign) :
    (canonical.float sign).toModel.unpack = canonical.unpacked sign := by
  have mantissa := canonical.mantissa_lt
  have low := canonical.le_exponent
  have high := canonical.exponent_le
  change unpack Format.binary64 (pack Format.binary64 (canonical.unpacked sign)) = _
  rw [pack_unpacked]
  split
  next full =>
    have stored : (BitVec.ofNat 11 (number.exponent + 1075).toNat).toNat =
        (number.exponent + 1075).toNat := by
      rw [BitVec.toNat_ofNat]
      omega
    have notGreatest : BitVec.ofNat 11 (number.exponent + 1075).toNat ≠ -1#11 := by
      intro same
      rw [← BitVec.toNat_inj, stored] at same
      change _ = 2047 at same
      omega
    have notLeast : BitVec.ofNat 11 (number.exponent + 1075).toNat ≠ 0#11 := by
      intro same
      rw [← BitVec.toNat_inj, stored] at same
      change _ = 0 at same
      omega
    have leading : (1#1 ++ BitVec.ofNat 52 number.mantissa).toNat = number.mantissa := by
      rw [BitVec.toNat_append, ← Nat.shiftLeft_add_eq_or_of_lt (BitVec.isLt _), Nat.shiftLeft_eq,
        BitVec.toNat_ofNat, BitVec.toNat_ofNat]
      omega
    have exponent :
        ((number.exponent + 1075).toNat : ℤ) -
            (Format.binary64.exponentBias + Format.binary64.mantissaBitsWithoutImplicit) =
          number.exponent := by
      change _ - (1023 + 52 : ℤ) = _
      omega
    simp only [unpack, unpackMantissa_packComponents, unpackExponent_packComponents,
      unpackSign_packComponents, Sign.ofBitVec_toBitVec, if_neg notGreatest, if_neg notLeast,
      stored, leading, exponent, unpacked]
  next notFull =>
    have least : number.exponent = -1074 := canonical.full.resolve_left notFull
    have stored : (BitVec.ofNat 52 number.mantissa).toNat = number.mantissa := by
      rw [BitVec.toNat_ofNat]
      omega
    have nonzero : BitVec.ofNat 52 number.mantissa ≠ 0#52 := by
      intro same
      rw [← BitVec.toNat_inj, stored] at same
      exact canonical.positive.ne' same
    have notGreatest : 0#11 ≠ -1#11 := by decide
    simp only [unpack, unpackMantissa_packComponents, unpackExponent_packComponents,
      unpackSign_packComponents, Sign.ofBitVec_toBitVec, if_neg notGreatest, dif_neg nonzero,
      stored, if_true, unpacked, least]
    rfl

/-- The negative of a canonical number is the same number with the other sign. -/
theorem neg_float
    (canonical : number.Canonical) :
    -canonical.float .positive = canonical.float .negative := by
  change Float.ofModel (Float.Model.pack (canonical.float .positive).toModel.unpack.neg) = _
  rw [unpack_float]
  rfl

theorem isInf_float
    (canonical : number.Canonical)
    (sign : Sign) :
    (canonical.float sign).isInf = false := by
  change (canonical.float sign).toModel.unpack.isInf = false
  rw [unpack_float]
  rfl

end Canonical

/-- The sign of a floating-point number. -/
def signOf (float : Float) : Sign :=
  if float.toBits.toNat / Nat.pow 2 63 = 1 then .negative else .positive

/-- The exponent of a finite number is not the greatest one. -/
theorem storedExponent_ne_of_isFinite
    {float : Float}
    (finite : float.isFinite = true) :
    float.toBits.toNat / 2 ^ 52 % 2 ^ 11 ≠ 2047 := by
  intro greatest
  have exponent : @unpackExponent Format.binary64 float.toBits.toBitVec = -1#11 := by
    rw [← BitVec.toNat_inj]
    change (float.toBits.toBitVec.extractLsb 62 52).toNat = 2047
    rw [BitVec.extractLsb_toNat, Nat.shiftRight_eq_div_pow]
    exact greatest
  change (unpack Format.binary64 float.toBits.toBitVec).isFinite = true at finite
  simp only [unpack, exponent, if_true] at finite
  split at finite <;> contradiction

/-- A number that is taken from its stored exponent and its fraction. -/
theorem canonical_of_stored
    {stored fraction : ℕ}
    {number : Binary}
    (notGreatest : stored < 2047)
    (small : fraction < 2 ^ 52)
    (taken :
      (if stored = 0 then
        if fraction = 0 then none else some ⟨fraction, -1074, false⟩
      else
        some ⟨2 ^ 52 + fraction, (stored : ℤ) - 1075, decide (fraction = 0 ∧ 1 < stored)⟩) =
          some number) :
    number.Canonical ∧ number.bits = stored * 2 ^ 52 + fraction := by
  split at taken
  next subnormal =>
    split at taken
    next =>
      contradiction
    next nonzero =>
      obtain rfl := Option.some.inj taken
      have notFull : ¬ 2 ^ 52 ≤ fraction := by omega
      constructor
      · constructor <;> simp <;> omega
      · rw [bits, if_neg notFull, subnormal, Nat.zero_mul, Nat.zero_add]
  next normal =>
    obtain rfl := Option.some.inj taken
    constructor
    · constructor <;> simp <;> omega
    · simp [bits]

/-- A finite number that is not zero is taken apart without loss. -/
theorem eq_float_of_ofBits?
    {float : Float}
    {number : Binary}
    (finite : float.isFinite = true)
    (encoded : ofBits? float.toBits = some number) :
    ∃ canonical : number.Canonical, float = canonical.float (signOf float) := by
  have notGreatest := storedExponent_ne_of_isFinite finite
  have bounded : float.toBits.toNat < 2 ^ 64 := float.toBits.toNat_lt
  simp only [ofBits?, Nat.pow_eq] at encoded
  obtain ⟨canonical, sameBits⟩ :
      number.Canonical ∧
        number.bits =
          float.toBits.toNat / 2 ^ 52 % 2 ^ 11 * 2 ^ 52 + float.toBits.toNat % 2 ^ 52 :=
    canonical_of_stored (by omega) (Nat.mod_lt _ (by decide)) encoded
  refine ⟨canonical, Float.toBits_inj.mp (UInt64.toNat_inj.mp ?_)⟩
  change _ = (pack Format.binary64 (canonical.unpacked (signOf float))).toNat
  rw [Canonical.toNat_pack_unpacked, sameBits, signOf]
  split
  next negative =>
    change float.toBits.toNat / 2 ^ 63 = 1 at negative
    change _ = 1 * 2 ^ 63 + _
    omega
  next positive =>
    change ¬ float.toBits.toNat / 2 ^ 63 = 1 at positive
    change _ = 0 * 2 ^ 63 + _
    omega

end Binary

/-! ## Products and quotients -/

namespace Rounding

/-- What is known of a quotient from its whole part and its remainder. -/
theorem represents_quotient
    (quotient remainder : ℕ)
    {divisor : ℕ}
    (small : remainder < divisor) :
    Represents
      (ExtendedMantissa.ofMantissaAndAccuracy quotient (accuracyOfFraction remainder divisor))
      (quotient + remainder / divisor) := by
  have positive : (0 : ℚ) < divisor := by
    exact_mod_cast Nat.zero_lt_of_lt small
  have belowOne : (remainder : ℚ) / divisor < 1 := by
    rw [div_lt_one positive]
    exact_mod_cast small
  rw [accuracyOfFraction]
  by_cases none : remainder = 0
  · rw [if_pos none, none]
    simp [Represents, ExtendedMantissa.ofMantissaAndAccuracy]
  · have aboveZero : (0 : ℚ) < remainder / divisor := by
      have : (0 : ℚ) < remainder := by
        exact_mod_cast Nat.pos_of_ne_zero none
      positivity
    rw [if_neg none]
    cases half : compare (2 * remainder) divisor with
    | lt =>
        have below : (2 * remainder : ℚ) < divisor := by
          exact_mod_cast Nat.compare_eq_lt.mp half
        have : (remainder : ℚ) / divisor < 1 / 2 := by
          rw [div_lt_iff₀ positive]
          linarith
        constructor <;> simp only [ExtendedMantissa.ofMantissaAndAccuracy] <;> linarith
    | eq =>
        have equal : (2 * remainder : ℚ) = divisor := by
          exact_mod_cast Nat.compare_eq_eq.mp half
        have : (remainder : ℚ) / divisor = 1 / 2 := by
          rw [div_eq_iff positive.ne']
          linarith
        simp only [Represents, ExtendedMantissa.ofMantissaAndAccuracy, this]
    | gt =>
        have above : (divisor : ℚ) < 2 * remainder := by
          exact_mod_cast Nat.compare_eq_gt.mp half
        have : 1 / 2 < (remainder : ℚ) / divisor := by
          rw [lt_div_iff₀ positive]
          linarith
        constructor <;> simp only [ExtendedMantissa.ofMantissaAndAccuracy] <;> linarith

/-- A quotient has as many binary digits as the difference of those of its parts tells. -/
theorem log2_div_ge
    {dividend divisor : ℕ}
    (shift : ℕ)
    (dividendPositive : 0 < dividend)
    (divisorPositive : 0 < divisor) :
    (dividend.log2 : ℤ) + shift - divisor.log2 ≤ (dividend <<< shift / divisor).log2 + 1 := by
  by_cases trivial : dividend.log2 + shift ≤ divisor.log2 + 1
  · omega
  · have divisorSmall : divisor < 2 ^ (divisor.log2 + 1) := Nat.lt_log2_self
    have dividendLarge : 2 ^ dividend.log2 ≤ dividend := Nat.log2_self_le dividendPositive.ne'
    have enough :
        2 ^ (dividend.log2 + shift - divisor.log2 - 1) ≤ dividend <<< shift / divisor := by
      rw [Nat.le_div_iff_mul_le divisorPositive, Nat.shiftLeft_eq]
      calc
        2 ^ (dividend.log2 + shift - divisor.log2 - 1) * divisor
            ≤ 2 ^ (dividend.log2 + shift - divisor.log2 - 1) * 2 ^ (divisor.log2 + 1) := by
          gcongr
        _ = 2 ^ dividend.log2 * 2 ^ shift := by
          rw [← pow_add, ← pow_add]
          congr 1
          omega
        _ ≤ dividend * 2 ^ shift := by gcongr
    have nonzero : dividend <<< shift / divisor ≠ 0 :=
      (Nat.lt_of_lt_of_le (by positivity) enough).ne'
    have := (Nat.le_log2 nonzero).mpr enough
    omega

section Exact

variable
    {number : Binary}
    {first second : ℕ}
    {firstExponent secondExponent : ℤ}
    {firstPositive : 0 < first}
    {secondPositive : 0 < second}

/-- A product with digits enough is rounded to the number that attracts the exact one. -/
theorem mul_eq
    (canonical : number.Canonical)
    (wide : 2 ^ 52 ≤ first * second)
    (attracts :
      number.Attracts (first * 2 ^ firstExponent * (second * 2 ^ secondExponent))) :
    UnpackedFloat.mul Format.binary64 (.finite .positive first firstExponent firstPositive)
        (.finite .positive second secondExponent secondPositive) =
      canonical.unpacked .positive := by
  have digits : 52 ≤ (first * second).log2 := by
    rwa [Nat.le_log2 (by positivity)]
  refine roundWithAccuracy_eq _ canonical ?_ (by omega) attracts
  rw [zpow_add₀ two_ne_zero]
  change _ = ((first * second : ℕ) : ℚ)
  push_cast
  field_simp

/-- A quotient is rounded to the number that attracts the exact one. -/
theorem div_eq
    (canonical : number.Canonical)
    (attracts :
      number.Attracts (first * 2 ^ firstExponent / (second * 2 ^ secondExponent))) :
    UnpackedFloat.div Format.binary64 (.finite .positive first firstExponent firstPositive)
        (.finite .positive second secondExponent secondPositive) =
      canonical.unpacked .positive := by
  have exponents :
      Format.binary64.targetExponent
          (totalExponent first firstExponent - totalExponent second secondExponent) =
        max ((first.log2 : ℤ) + firstExponent - (second.log2 + secondExponent) - 53) (-1074) := by
    simp only [Format.targetExponent, totalExponent, Format.mantissaBits, Format.minExponent]
    norm_num
    omega
  rw [UnpackedFloat.div, divCore, exponents]
  obtain ⟨grid, isGrid⟩ :
      ∃ grid,
        min (firstExponent - secondExponent)
            (max ((first.log2 : ℤ) + firstExponent - (second.log2 + secondExponent) - 53)
              (-1074)) =
          grid := ⟨_, rfl⟩
  obtain ⟨shift, isShift⟩ :
      ∃ shift, (firstExponent - secondExponent - grid).toNat = shift := ⟨_, rfl⟩
  have digits := log2_div_ge shift firstPositive secondPositive
  simp only [isGrid, isShift]
  refine roundWithAccuracy_eq _ canonical ?_ (by omega) attracts
  have split :
      ((first <<< shift / second : ℕ) : ℚ) + ((first <<< shift % second : ℕ) : ℚ) / second =
        first * 2 ^ firstExponent / (second * 2 ^ secondExponent) / 2 ^ grid := by
    have nonzero : (second : ℚ) ≠ 0 := by
      exact_mod_cast secondPositive.ne'
    have whole :
        (second : ℚ) * (first <<< shift / second : ℕ) + (first <<< shift % second : ℕ) =
          first * 2 ^ shift := by
      rw [Nat.shiftLeft_eq]
      exact_mod_cast Nat.div_add_mod (first * 2 ^ shift) second
    have exponent : firstExponent = secondExponent + grid + shift := by omega
    rw [exponent, zpow_add₀ two_ne_zero, zpow_add₀ two_ne_zero, zpow_natCast]
    field_simp
    linarith
  rw [← split]
  exact represents_quotient _ _ (Nat.mod_lt _ secondPositive)

end Exact

end Rounding

end SchemaScript
