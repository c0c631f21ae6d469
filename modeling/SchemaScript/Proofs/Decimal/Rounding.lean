import Mathlib
import SchemaScript.Decimal.Shortest

namespace SchemaScript

/-!
# Rounding to floating-point numbers

Every floating-point number attracts the numbers between the midpoints to its
two neighbours, and the midpoints themselves when its mantissa is even.  The
arithmetic of floating-point numbers drops the digits of an exact result one by
one, and remembers of the dropped ones how they compare with one half; rounding
what is left gives the number that attracts the exact result.
-/

open Float.Model (Format UnpackedFloat totalExponent)
open Float.Model.UnpackedFloat

namespace Binary

/-- The number that lies a number of quarters of the last binary place away. -/
def edge (number : Binary) (quarters : ℤ) : ℚ :=
  (4 * number.mantissa + quarters) * 2 ^ (number.exponent - 2)

/-- How far below the number the numbers begin that are nearer to it, in quarters. -/
def reach (number : Binary) : ℤ :=
  if number.atBinadeStart then -1 else -2

/-- Whether a number is rounded to this one. -/
def Attracts (number : Binary) (value : ℚ) : Prop :=
  (number.edge number.reach < value ∨
      number.mantissa % 2 = 0 ∧ number.edge number.reach = value) ∧
    (value < number.edge 2 ∨ number.mantissa % 2 = 0 ∧ value = number.edge 2)

/-- A number that has an encoding of 64 bits. -/
structure Canonical (number : Binary) : Prop where
  positive : 0 < number.mantissa
  mantissa_lt : number.mantissa < 2 ^ 53
  le_exponent : -1074 ≤ number.exponent
  exponent_le : number.exponent ≤ 971
  full : 2 ^ 52 ≤ number.mantissa ∨ number.exponent = -1074
  atBinadeStart_iff :
    number.atBinadeStart = true ↔ number.mantissa = 2 ^ 52 ∧ -1074 < number.exponent

end Binary

namespace Binary

/-- An edge lies some quarters of a unit away from the number. -/
theorem edge_eq
    (number : Binary)
    (quarters : ℤ) :
    number.edge quarters = (number.mantissa + quarters / 4) * 2 ^ number.exponent := by
  rw [edge, zpow_sub₀ two_ne_zero]
  ring

/-- What a number attracts, on the grid of its last binary place. -/
theorem attracts_iff
    {number : Binary}
    {value : ℚ} :
    number.Attracts value ↔
      ((number.mantissa : ℚ) + number.reach / 4 < value / 2 ^ number.exponent ∨
          number.mantissa % 2 = 0 ∧
            (number.mantissa : ℚ) + number.reach / 4 = value / 2 ^ number.exponent) ∧
        (value / 2 ^ number.exponent < number.mantissa + 1 / 2 ∨
          number.mantissa % 2 = 0 ∧
            value / 2 ^ number.exponent = number.mantissa + 1 / 2) := by
  have scale : (0 : ℚ) < 2 ^ number.exponent := zpow_pos two_pos _
  have half : ((2 : ℤ) : ℚ) / 4 = 1 / 2 := by norm_num
  rw [Attracts, edge_eq, edge_eq, half, lt_div_iff₀ scale, eq_div_iff scale.ne',
    div_lt_iff₀ scale, div_eq_iff scale.ne']

/-- Below a number the next one is half as far away where a binade starts. -/
theorem reach_eq
    (number : Binary) :
    number.reach = -1 ∧ number.atBinadeStart = true ∨
      number.reach = -2 ∧ number.atBinadeStart = false := by
  rw [reach]
  cases number.atBinadeStart <;> simp

/-- No attracted number is further than one half away. -/
theorem Attracts.near
    {number : Binary}
    {value : ℚ}
    (attracts : number.Attracts value) :
    ((number.mantissa : ℚ) - 1 / 2 < value / 2 ^ number.exponent ∨
        number.mantissa % 2 = 0 ∧
          (number.mantissa : ℚ) - 1 / 2 = value / 2 ^ number.exponent) ∧
      (value / 2 ^ number.exponent < number.mantissa + 1 / 2 ∨
        number.mantissa % 2 = 0 ∧
          value / 2 ^ number.exponent = number.mantissa + 1 / 2) := by
  obtain ⟨low, high⟩ := attracts_iff.mp attracts
  refine ⟨?_, high⟩
  rcases number.reach_eq with ⟨short, -⟩ | ⟨full, -⟩
  · rw [short] at low
    left
    rcases low with low | ⟨-, low⟩ <;> push_cast at low <;> linarith
  · have half : (number.mantissa : ℚ) + number.reach / 4 = number.mantissa - 1 / 2 := by
      rw [full]
      push_cast
      ring
    rwa [half] at low

/-- A number attracts nothing that lies more than half a unit below it. -/
theorem Attracts.half_below_le
    {number : Binary}
    {value : ℚ}
    (attracts : number.Attracts value) :
    ((number.mantissa : ℚ) - 1 / 2) * 2 ^ number.exponent ≤ value := by
  rw [← le_div_iff₀ (zpow_pos two_pos _)]
  rcases attracts.near.1 with low | ⟨-, low⟩ <;> linarith

/-- A number attracts nothing that lies more than half a unit above it. -/
theorem Attracts.le_half_above
    {number : Binary}
    {value : ℚ}
    (attracts : number.Attracts value) :
    value ≤ ((number.mantissa : ℚ) + 1 / 2) * 2 ^ number.exponent := by
  rw [← div_le_iff₀ (zpow_pos two_pos _)]
  rcases attracts.near.2 with high | ⟨-, high⟩ <;> linarith

end Binary

namespace Rounding

/-! ## What is known of dropped digits -/

/-- A mantissa stands for a number whose digits after the point it knows in part. -/
def Represents (extended : ExtendedMantissa) (value : ℚ) : Prop :=
  match extended.roundBit, extended.stickyBit with
  | false, false => value = extended.mantissa
  | false, true => extended.mantissa < value ∧ value < extended.mantissa + 1 / 2
  | true, false => value = extended.mantissa + 1 / 2
  | true, true => extended.mantissa + 1 / 2 < value ∧ value < extended.mantissa + 1

namespace Represents

variable
    {extended : ExtendedMantissa}
    {value : ℚ}

/-- The mantissa is the whole part of the number. -/
theorem bounds
    (represents : Represents extended value) :
    (extended.mantissa : ℚ) ≤ value ∧ value < extended.mantissa + 1 := by
  obtain ⟨mantissa, roundBit, stickyBit⟩ := extended
  cases roundBit <;> cases stickyBit <;> simp only [Represents] at represents <;>
    constructor <;> linarith

/-- Dropping one more digit halves the number. -/
theorem shiftRightOne
    (represents : Represents extended value) :
    Represents extended.shiftRightOne (value / 2) := by
  obtain ⟨mantissa, roundBit, stickyBit⟩ := extended
  have split : (2 * (mantissa / 2 : ℕ) + (mantissa % 2 : ℕ) : ℚ) = mantissa := by
    exact_mod_cast Nat.div_add_mod mantissa 2
  rcases Nat.mod_two_eq_zero_or_one mantissa with parity | parity <;> rw [parity] at split <;>
    cases roundBit <;> cases stickyBit <;>
    simp [Represents, ExtendedMantissa.shiftRightOne, parity] at represents ⊢ <;>
    push_cast at split <;> (try constructor) <;> linarith

/-- A mantissa that is shifted to the right stands for its value divided. -/
theorem shiftRight
    (represents : Represents extended value)
    (count : ℕ) :
    Represents (extended >>> count) (value / 2 ^ count) := by
  change Represents (count.repeat ExtendedMantissa.shiftRightOne extended) _
  induction count with
  | zero =>
      simpa [Nat.repeat] using represents
  | succ count inductionHypothesis =>
      rw [Nat.repeat, pow_succ, ← div_div]
      exact inductionHypothesis.shiftRightOne

/-- Rounding gives the whole number that is nearest, and the even one of two. -/
theorem roundedMantissa_eq
    {nearest : ℕ}
    (represents : Represents extended value)
    (low : (nearest : ℚ) - 1 / 2 < value ∨ nearest % 2 = 0 ∧ (nearest : ℚ) - 1 / 2 = value)
    (high : value < nearest + 1 / 2 ∨ nearest % 2 = 0 ∧ value = nearest + 1 / 2) :
    extended.roundedMantissa = nearest := by
  obtain ⟨mantissa, roundBit, stickyBit⟩ := extended
  have atLeast : (nearest : ℚ) ≤ value + 1 / 2 := by
    rcases low with low | ⟨-, low⟩ <;> linarith
  have atMost : value ≤ nearest + 1 / 2 := by
    rcases high with high | ⟨-, high⟩ <;> linarith
  cases roundBit with
  | false =>
      have near : (mantissa : ℚ) ≤ value ∧ value < mantissa + 1 / 2 := by
        cases stickyBit <;> simp only [Represents] at represents <;> constructor <;> linarith
      have notAbove : nearest < mantissa + 1 := by
        exact_mod_cast (by linarith : (nearest : ℚ) < mantissa + 1)
      have notBelow : mantissa < nearest + 1 := by
        exact_mod_cast (by linarith : (mantissa : ℚ) < nearest + 1)
      have rounded : ExtendedMantissa.roundedMantissa ⟨mantissa, false, stickyBit⟩ = mantissa := by
        cases stickyBit <;> rfl
      omega
  | true =>
      cases stickyBit with
      | false =>
          have half : value = mantissa + 1 / 2 := represents
          have rounded :
              ExtendedMantissa.roundedMantissa ⟨mantissa, true, false⟩ =
                mantissa + mantissa % 2 := rfl
          have notAbove : nearest ≤ mantissa + 1 := by
            exact_mod_cast (by linarith : (nearest : ℚ) ≤ mantissa + 1)
          have notBelow : mantissa ≤ nearest := by
            exact_mod_cast (by linarith : (mantissa : ℚ) ≤ nearest)
          rcases notBelow.eq_or_lt with same | above
          · have even : nearest % 2 = 0 := by
              rcases high with high | ⟨even, -⟩
              · rw [half, same] at high
                exact (lt_irrefl _ high).elim
              · exact even
            omega
          · have next : nearest = mantissa + 1 := by omega
            have even : nearest % 2 = 0 := by
              rcases low with low | ⟨even, -⟩
              · rw [half, next] at low
                push_cast at low
                linarith
              · exact even
            omega
      | true =>
          have near : (mantissa : ℚ) + 1 / 2 < value ∧ value < mantissa + 1 := represents
          have rounded :
              ExtendedMantissa.roundedMantissa ⟨mantissa, true, true⟩ = mantissa + 1 := rfl
          have notAbove : nearest < mantissa + 2 := by
            exact_mod_cast (by linarith : (nearest : ℚ) < mantissa + 2)
          have above : mantissa < nearest := by
            exact_mod_cast (by linarith : (mantissa : ℚ) < nearest)
          omega

end Represents

/-! ## Rounding an exact result -/

/-- The exponent to which a number of a mantissa and an exponent is rounded. -/
theorem targetExponent_eq
    (mantissa : ℕ)
    (exponent : ℤ) :
    Format.binary64.targetExponent (totalExponent mantissa exponent) =
      max ((mantissa.log2 : ℤ) + exponent - 52) (-1074) := by
  simp only [Format.targetExponent, totalExponent, Format.mantissaBits, Format.minExponent]
  norm_num
  omega

/-- The exponent to which a number is rounded leaves it no more than 53 binary digits. -/
theorem lt_two_zpow_targetExponent
    {mantissa : ℕ}
    {exponent : ℤ}
    {value : ℚ}
    (below : value / 2 ^ exponent < mantissa + 1) :
    value < 2 ^ (max ((mantissa.log2 : ℤ) + exponent - 52) (-1074) + 53) := by
  have wide : (mantissa + 1 : ℚ) ≤ 2 ^ (mantissa.log2 + 1) := by
    exact_mod_cast Nat.lt_log2_self
  have scale : (0 : ℚ) < 2 ^ exponent := zpow_pos two_pos exponent
  calc
    value < (mantissa + 1) * 2 ^ exponent := (div_lt_iff₀ scale).mp below
    _ ≤ 2 ^ (mantissa.log2 + 1) * 2 ^ exponent := by gcongr
    _ = 2 ^ ((mantissa.log2 : ℤ) + 1 + exponent) := by
      rw [← zpow_natCast, ← zpow_add₀ two_ne_zero]
      norm_cast
    _ ≤ 2 ^ (max ((mantissa.log2 : ℤ) + exponent - 52) (-1074) + 53) := by
      apply zpow_le_zpow_right₀ one_le_two
      omega

/-- Unless it is the least of all, the exponent leaves a number 53 binary digits. -/
theorem two_zpow_targetExponent_le
    {mantissa : ℕ}
    {exponent : ℤ}
    {value : ℚ}
    (above : mantissa ≤ value / 2 ^ exponent)
    (fine : exponent ≤ (mantissa.log2 : ℤ) + exponent - 52) :
    (2 : ℚ) ^ ((mantissa.log2 : ℤ) + exponent) ≤ value := by
  have scale : (0 : ℚ) < 2 ^ exponent := zpow_pos two_pos exponent
  have nonzero : mantissa ≠ 0 := by
    rintro rfl
    simp at fine
  have leading : (2 : ℚ) ^ mantissa.log2 ≤ mantissa := by
    exact_mod_cast Nat.log2_self_le nonzero
  calc
    (2 : ℚ) ^ ((mantissa.log2 : ℤ) + exponent) = 2 ^ mantissa.log2 * 2 ^ exponent := by
      rw [zpow_add₀ two_ne_zero, zpow_natCast]
    _ ≤ mantissa * 2 ^ exponent := by gcongr
    _ ≤ value := (le_div_iff₀ scale).mp above

/-- A mantissa of no more than 53 digits is not shifted any more. -/
theorem shiftToTargetExponent_of_lt
    {mantissa : ℕ}
    {exponent : ℤ}
    (small : mantissa < 2 ^ 53)
    (bounded : -1074 ≤ exponent) :
    shiftToTargetExponent Format.binary64 mantissa exponent .exact =
      (⟨mantissa, false, false⟩, exponent) := by
  have digits : mantissa.log2 ≤ 52 := by
    by_cases zero : mantissa = 0
    · simp [zero]
    · have := (Nat.log2_lt zero).mpr small
      omega
  have still :
      (max ((mantissa.log2 : ℤ) + exponent - 52) (-1074) - exponent).toNat = 0 := by
    omega
  rw [shiftToTargetExponent, targetExponent_eq, shiftToExponent, still]
  simp [ExtendedMantissa.ofMantissaAndAccuracy]
  rfl

/-- A mantissa that was rounded up to 54 digits is shifted by one. -/
theorem shiftToTargetExponent_two_pow
    {exponent : ℤ}
    (bounded : -1074 ≤ exponent) :
    shiftToTargetExponent Format.binary64 (2 ^ 53) exponent .exact =
      (⟨2 ^ 52, false, false⟩, exponent + 1) := by
  have once :
      (max (((2 ^ 53 : ℕ).log2 : ℤ) + exponent - 52) (-1074) - exponent).toNat = 1 := by
    rw [Nat.log2_two_pow]
    omega
  rw [shiftToTargetExponent, targetExponent_eq, shiftToExponent, once]
  rfl

theorem mantissa_ofMantissaAndAccuracy
    (mantissa : ℕ)
    (accuracy : Accuracy) :
    (ExtendedMantissa.ofMantissaAndAccuracy mantissa accuracy).mantissa = mantissa := by
  rcases accuracy with _ | ordering
  · rfl
  · cases ordering <;> rfl

section Grids

variable
    {number : Binary}
    {grid : ℤ}
    {value : ℚ}

/-- A number does not attract what is rounded on a coarser grid. -/
theorem le_exponent_of_attracts
    (canonical : number.Canonical)
    (attracts : number.Attracts value)
    (normal : grid = -1074 ∨ (2 : ℚ) ^ (grid + 52) ≤ value) :
    grid ≤ number.exponent := by
  have bottom := canonical.le_exponent
  rcases normal with least | normal
  · omega
  · have mantissa : (number.mantissa : ℚ) + 1 ≤ 2 ^ 53 := by
      exact_mod_cast canonical.mantissa_lt
    have above : (2 : ℚ) ^ (grid + 52) < 2 ^ (number.exponent + 53) := by
      calc
        (2 : ℚ) ^ (grid + 52) ≤ value := normal
        _ ≤ (number.mantissa + 1 / 2) * 2 ^ number.exponent := attracts.le_half_above
        _ < 2 ^ 53 * 2 ^ number.exponent := by
          gcongr
          linarith
        _ = 2 ^ (number.exponent + 53) := by
          rw [zpow_add₀ two_ne_zero, mul_comm]
          norm_cast
    have := (zpow_lt_zpow_iff_right₀ one_lt_two).mp above
    omega

/-- A number attracts what is rounded on its own grid, or on the next finer one. -/
theorem exponent_le_of_attracts
    (canonical : number.Canonical)
    (attracts : number.Attracts value)
    (bounded : -1074 ≤ grid)
    (small : value < 2 ^ (grid + 53)) :
    number.exponent ≤ grid + 1 := by
  rcases canonical.full with full | least
  · have mantissa : (2 : ℚ) ^ 52 ≤ number.mantissa := by
      exact_mod_cast full
    have above : (2 : ℚ) ^ (number.exponent + 51) < 2 ^ (grid + 53) := by
      calc
        (2 : ℚ) ^ (number.exponent + 51) = 2 ^ 51 * 2 ^ number.exponent := by
          rw [zpow_add₀ two_ne_zero, mul_comm]
          norm_cast
        _ ≤ (number.mantissa - 1 / 2) * 2 ^ number.exponent := by
          gcongr
          linarith
        _ ≤ value := attracts.half_below_le
        _ < 2 ^ (grid + 53) := small
    have := (zpow_lt_zpow_iff_right₀ one_lt_two).mp above
    omega
  · omega

/-- Only the least number of a binade attracts what is rounded on the next finer grid. -/
theorem mantissa_eq_of_attracts
    (canonical : number.Canonical)
    (attracts : number.Attracts value)
    (bounded : -1074 ≤ grid)
    (finer : number.exponent = grid + 1)
    (small : value < 2 ^ (grid + 53)) :
    number.mantissa = 2 ^ 52 ∧ number.reach = -1 := by
  have scale : (0 : ℚ) < 2 ^ number.exponent := zpow_pos two_pos _
  have full : 2 ^ 52 ≤ number.mantissa := by
    rcases canonical.full with full | least
    · exact full
    · omega
  have inBinade : value / 2 ^ number.exponent < 2 ^ 52 := by
    rw [div_lt_iff₀ scale, finer]
    calc
      value < 2 ^ (grid + 53) := small
      _ = 2 ^ 52 * 2 ^ (grid + 1) := by
        rw [← zpow_natCast, ← zpow_add₀ two_ne_zero]
        congr 1
        omega
  have near : (number.mantissa : ℚ) - 1 / 2 ≤ value / 2 ^ number.exponent :=
    (le_div_iff₀ scale).mpr attracts.half_below_le
  have atMost : number.mantissa < 2 ^ 52 + 1 := by
    exact_mod_cast (by linarith : (number.mantissa : ℚ) < 2 ^ 52 + 1)
  have least : number.mantissa = 2 ^ 52 := by omega
  refine ⟨least, ?_⟩
  rcases number.reach_eq with ⟨short, -⟩ | ⟨-, notStart⟩
  · exact short
  · have start : number.atBinadeStart = true :=
      canonical.atBinadeStart_iff.mpr ⟨least, by omega⟩
    rw [start] at notStart
    contradiction

end Grids

/--
A result that is known to its last binary place or further is rounded to the
number that attracts it.
-/
theorem roundWithAccuracy_eq
    {number : Binary}
    {mantissa : ℕ}
    {exponent : ℤ}
    {accuracy : Accuracy}
    {value : ℚ}
    (sign : Sign)
    (canonical : number.Canonical)
    (represents :
      Represents (ExtendedMantissa.ofMantissaAndAccuracy mantissa accuracy)
        (value / 2 ^ exponent))
    (fine : exponent ≤ max ((mantissa.log2 : ℤ) + exponent - 52) (-1074))
    (attracts : number.Attracts value) :
    roundWithAccuracy Format.binary64 sign mantissa exponent accuracy =
      .finite sign number.mantissa number.exponent canonical.positive := by
  have within := represents.bounds
  rw [mantissa_ofMantissaAndAccuracy] at within
  have small := lt_two_zpow_targetExponent within.2
  obtain ⟨grid, isGrid⟩ : ∃ grid, grid = max ((mantissa.log2 : ℤ) + exponent - 52) (-1074) :=
    ⟨_, rfl⟩
  rw [← isGrid] at small fine
  have bounded : -1074 ≤ grid := by omega
  have normal : grid = -1074 ∨ (2 : ℚ) ^ (grid + 52) ≤ value := by
    by_cases least : grid = -1074
    · exact .inl least
    · right
      have isTarget : grid + 52 = (mantissa.log2 : ℤ) + exponent := by omega
      rw [isTarget]
      exact two_zpow_targetExponent_le within.1 (by omega)
  -- The first shift brings the result to the grid and keeps what is known of it.
  have shifted :
      Represents
        (ExtendedMantissa.ofMantissaAndAccuracy mantissa accuracy >>> (grid - exponent).toNat)
        (value / 2 ^ grid) := by
    have steps : exponent + ((grid - exponent).toNat : ℤ) = grid := by omega
    have := represents.shiftRight (grid - exponent).toNat
    rwa [div_div, ← zpow_natCast, ← zpow_add₀ two_ne_zero, steps] at this
  have firstShift :
      shiftToTargetExponent Format.binary64 mantissa exponent accuracy =
        (ExtendedMantissa.ofMantissaAndAccuracy mantissa accuracy >>> (grid - exponent).toNat,
          grid) := by
    rw [shiftToTargetExponent, targetExponent_eq, ← isGrid, shiftToExponent]
    congr 1
    omega
  have notCoarser := le_exponent_of_attracts canonical attracts normal
  have notFiner := exponent_le_of_attracts canonical attracts bounded small
  rw [roundWithAccuracy, firstShift]
  dsimp only
  rcases notCoarser.eq_or_lt with same | finer
  · have rounded := shifted.roundedMantissa_eq (same ▸ attracts.near.1) (same ▸ attracts.near.2)
    have nonzero : number.mantissa ≠ 0 := canonical.positive.ne'
    rw [rounded, shiftToTargetExponent_of_lt canonical.mantissa_lt bounded]
    simp [nonzero, same]
  · have next : number.exponent = grid + 1 := by omega
    obtain ⟨least, short⟩ := mantissa_eq_of_attracts canonical attracts bounded next small
    have scale : (0 : ℚ) < 2 ^ grid := zpow_pos two_pos _
    have doubled : value / 2 ^ grid = 2 * (value / 2 ^ number.exponent) := by
      rw [next, zpow_add₀ two_ne_zero, zpow_one]
      field_simp
    have low : ((2 ^ 53 : ℕ) : ℚ) - 1 / 2 ≤ value / 2 ^ grid := by
      rcases (Binary.attracts_iff.mp attracts).1 with low | ⟨-, low⟩ <;>
        rw [least, short] at low <;> push_cast at low ⊢ <;> linarith
    have high : value / 2 ^ grid < ((2 ^ 53 : ℕ) : ℚ) := by
      rw [div_lt_iff₀ scale]
      calc
        value < 2 ^ (grid + 53) := small
        _ = ((2 ^ 53 : ℕ) : ℚ) * 2 ^ grid := by
          rw [zpow_add₀ two_ne_zero, mul_comm]
          norm_cast
    have rounded := shifted.roundedMantissa_eq
      (low.lt_or_eq.imp_right fun same => ⟨by norm_num, same⟩) (.inl (by linarith))
    rw [rounded, shiftToTargetExponent_two_pow bounded]
    simp [least, next]

end Rounding

end SchemaScript
