import SchemaScript.Proofs.Decimal.Reading

namespace SchemaScript

/-!
# Shortest decimals read back

The search for the shortest decimal of a number accepts no point that the
number does not attract.  It comes down to a grid that is finer than half of the
last binary place, where the point above the number is attracted, so that it
always ends with such a point.
-/

namespace Binary

/-- The number itself, without its sign. -/
def value (number : Binary) : ℚ :=
  number.mantissa * 2 ^ number.exponent

theorem two_zpow_scaled
    (exponent : ℤ) :
    (2 : ℚ) ^ exponent * 2 ^ (-exponent).toNat = 2 ^ exponent.toNat := by
  rw [← zpow_natCast, ← zpow_natCast, ← zpow_add₀ two_ne_zero]
  congr 1
  omega

theorem ten_zpow_scaled
    (exponent : ℤ) :
    (10 : ℚ) ^ exponent * 10 ^ (-exponent).toNat = 10 ^ exponent.toNat := by
  rw [← zpow_natCast, ← zpow_natCast, ← zpow_add₀ (by norm_num)]
  congr 1
  omega

/-- Comparing two fractions is comparing their numerators over a common denominator. -/
theorem compare_intCast
    {first second : ℤ}
    {firstValue secondValue scale : ℚ}
    (positive : 0 < scale)
    (isFirst : (first : ℚ) = firstValue * scale)
    (isSecond : (second : ℚ) = secondValue * scale) :
    compare first second = compare firstValue secondValue := by
  have less : first < second ↔ firstValue < secondValue := by
    rw [← Int.cast_lt (R := ℚ), isFirst, isSecond, mul_lt_mul_iff_left₀ positive]
  have greater : second < first ↔ secondValue < firstValue := by
    rw [← Int.cast_lt (R := ℚ), isFirst, isSecond, mul_lt_mul_iff_left₀ positive]
  rcases lt_trichotomy first second with before | same | after
  · rw [compare_lt_iff_lt.mpr before, compare_lt_iff_lt.mpr (less.mp before)]
  · have sameValue : firstValue = secondValue :=
      le_antisymm (not_lt.mp fun after => same.not_gt (greater.mpr after))
        (not_lt.mp fun before => same.not_lt (less.mpr before))
    rw [compare_eq_iff_eq.mpr same, compare_eq_iff_eq.mpr sameValue]
  · rw [compare_gt_iff_gt.mpr after, compare_gt_iff_gt.mpr (greater.mp after)]

section Points

variable
    {number : Binary}
    {grid : ℤ}
    {point : ℕ}

/-- Edges and points are compared by whole numbers in the same proportion. -/
theorem comparePoint_eq
    (number : Binary)
    (quarters grid : ℤ)
    (point : ℕ) :
    number.comparePoint quarters grid point =
      compare (number.edge quarters) (point * 10 ^ grid : ℚ) := by
  have positive : (0 : ℚ) < 2 ^ (-(number.exponent - 2)).toNat * 10 ^ (-grid).toNat := by
    positivity
  apply compare_intCast positive
  · change (((4 * (number.mantissa : ℤ) + quarters) * 2 ^ (number.exponent - 2).toNat *
      10 ^ (-grid).toNat : ℤ) : ℚ) = _
    push_cast
    rw [edge, ← two_zpow_scaled (number.exponent - 2)]
    ring
  · change (((point : ℤ) * 10 ^ grid.toNat * 2 ^ (-(number.exponent - 2)).toNat : ℤ) : ℚ) = _
    push_cast
    rw [← ten_zpow_scaled grid]
    ring

/-- A point is accepted exactly when the number attracts it. -/
theorem readsBack_iff :
    number.readsBack grid point = true ↔ number.Attracts (point * 10 ^ grid) := by
  have sameReach : (if number.atBinadeStart then -1 else -2) = number.reach := rfl
  simp only [readsBack, comparePoint_eq, Attracts, decide_eq_true_eq]
  rw [sameReach, compare_lt_iff_lt, compare_eq_iff_eq, compare_gt_iff_gt, compare_eq_iff_eq,
    eq_comm (a := number.edge 2)]

/-- A point that is found on a grid is read back as the number. -/
theorem readsBack_of_pointOn?
    {halfWay : HalfWay}
    (found : number.pointOn? halfWay grid = some point) :
    number.readsBack grid point = true := by
  unfold pointOn? at found
  extract_lets lower lowerReads upperReads at found
  split at found
  next both =>
    obtain rfl := Option.some.inj found
    split
    · exact both.2
    · exact both.1.2
  next =>
    split at found
    next below =>
      obtain rfl := Option.some.inj found
      exact below.2
    next =>
      split at found
      next above =>
        obtain rfl := Option.some.inj found
        exact above
      next =>
        contradiction

/-- The greatest point that is not above the number. -/
theorem floorPoint_bounds
    (number : Binary)
    (grid : ℤ) :
    number.floorPoint grid * 10 ^ grid ≤ number.value ∧
      number.value < (number.floorPoint grid + 1 : ℕ) * 10 ^ grid := by
  obtain ⟨scaled, isScaled⟩ :
      ∃ scaled : ℕ,
        number.mantissa * 2 ^ number.exponent.toNat * 10 ^ (-grid).toNat = scaled := ⟨_, rfl⟩
  obtain ⟨unit, isUnit⟩ :
      ∃ unit : ℕ, 2 ^ (-number.exponent).toNat * 10 ^ grid.toNat = unit := ⟨_, rfl⟩
  have positive : 0 < unit := by
    rw [← isUnit]
    positivity
  have isFloor : number.floorPoint grid = scaled / unit := by
    rw [← isScaled, ← isUnit]
    rfl
  have unitPositive : (0 : ℚ) < unit := by
    exact_mod_cast positive
  have scale : (0 : ℚ) < 10 ^ grid := zpow_pos (by norm_num) _
  have quotient : number.value = scaled / unit * 10 ^ grid := by
    rw [div_mul_eq_mul_div, eq_div_iff unitPositive.ne', value, ← isScaled, ← isUnit]
    push_cast
    rw [← two_zpow_scaled number.exponent, ← ten_zpow_scaled grid]
    ring
  rw [quotient, isFloor]
  constructor
  · gcongr
    rw [le_div_iff₀ unitPositive]
    exact_mod_cast Nat.div_mul_le_self scaled unit
  · gcongr
    rw [div_lt_iff₀ unitPositive, mul_comm]
    exact_mod_cast Nat.lt_mul_div_succ scaled positive

/-- On a grid finer than half of the last binary place, the point above the number is attracted. -/
theorem exists_pointOn?
    (halfWay : HalfWay)
    (fine : (10 : ℚ) ^ grid < 2 ^ (number.exponent - 1)) :
    ∃ point, number.pointOn? halfWay grid = some point := by
  obtain ⟨notAbove, above⟩ := number.floorPoint_bounds grid
  have scale : (0 : ℚ) < 2 ^ number.exponent := zpow_pos two_pos _
  have belowNumber : number.edge number.reach < number.value := by
    rw [edge_eq, value]
    gcongr
    rcases number.reach_eq with ⟨short, -⟩ | ⟨full, -⟩
    · rw [short]
      norm_num
    · rw [full]
      norm_num
  have aboveNumber : number.edge 2 = number.value + 2 ^ (number.exponent - 1) := by
    rw [edge_eq, value, zpow_sub₀ two_ne_zero]
    push_cast
    ring
  have reads : number.readsBack grid (number.floorPoint grid + 1) = true := by
    rw [readsBack_iff]
    refine ⟨.inl (belowNumber.trans above), .inl ?_⟩
    rw [aboveNumber]
    push_cast
    linarith
  unfold pointOn?
  simp only [reads, and_true, if_true]
  split
  · exact ⟨_, rfl⟩
  · exact ⟨_, rfl⟩

end Points

/-! ## The search -/

/-- A search that comes to a grid with a point ends with a point that is accepted. -/
theorem searchGrids_spec
    {number : Binary}
    {halfWay : HalfWay}
    {count steps : ℕ}
    {grid : ℤ}
    (reached : steps < count)
    (found : ∃ point, number.pointOn? halfWay (grid - steps) = some point) :
    number.Attracts (number.searchGrids halfWay count grid).value := by
  induction count generalizing grid steps with
  | zero =>
      omega
  | succ count inductionHypothesis =>
      rw [searchGrids]
      split
      next point here =>
        -- The search may end sooner than at the grid that is known to have a point.
        exact readsBack_iff.mp (readsBack_of_pointOn? here)
      next notHere =>
        obtain ⟨point, found⟩ := found
        cases steps with
        | zero =>
            rw [Nat.cast_zero, sub_zero, notHere] at found
            contradiction
        | succ steps =>
            have sameGrid : grid - ((steps + 1 : ℕ) : ℤ) = grid - 1 - steps := by
              push_cast
              ring
            rw [sameGrid] at found
            exact inductionHypothesis (by omega) ⟨point, found⟩

/-- Powers of two bases compare as fixed powers of the bases allow. -/
theorem zpow_le_zpow_of_pow_le
    {first second : ℚ}
    {firstPower secondPower : ℕ}
    {exponent other : ℤ}
    (bases : first ^ firstPower ≤ second ^ secondPower)
    (positive : 0 < first)
    (atLeastOne : 1 ≤ second)
    (nonzero : firstPower ≠ 0)
    (nonnegative : 0 ≤ exponent)
    (enough : secondPower * exponent ≤ firstPower * other) :
    first ^ exponent ≤ second ^ other := by
  apply le_of_pow_le_pow_left₀ nonzero (zpow_nonneg (by linarith) _)
  calc
    (first ^ exponent) ^ firstPower = (first ^ firstPower) ^ exponent := by
      rw [← zpow_natCast, ← zpow_natCast, zpow_comm]
    _ ≤ (second ^ secondPower) ^ exponent :=
      zpow_le_zpow_left₀ nonnegative (by positivity) bases
    _ = second ^ (secondPower * exponent) := by
      rw [zpow_mul, zpow_natCast]
    _ ≤ second ^ (firstPower * other) := zpow_le_zpow_right₀ atLeastOne enough
    _ = (second ^ other) ^ firstPower := by
      rw [mul_comm, zpow_mul, zpow_natCast]

/-- A power of ten with fewer digits than a power of two has is not above it. -/
theorem ten_zpow_le_two_zpow
    {tens twos : ℤ}
    (fewer : 100000 * (tens + 3) ≤ 30103 * twos)
    (low : -2000 ≤ twos)
    (high : twos ≤ 2000) :
    (10 : ℚ) ^ tens ≤ 2 ^ twos := by
  rcases le_or_gt 0 tens with nonnegative | negative
  · have bases : (10 : ℚ) ^ 59 ≤ 2 ^ 196 := by norm_num
    exact
      zpow_le_zpow_of_pow_le bases (by norm_num) one_le_two (by decide) nonnegative
        (by push_cast; omega)
  · rcases le_or_gt 0 twos with nonnegative | alsoNegative
    · calc
        (10 : ℚ) ^ tens ≤ 1 := zpow_le_one_of_nonpos₀ (by norm_num) negative.le
        _ ≤ 2 ^ twos := one_le_zpow₀ one_le_two nonnegative
    · have bases : (2 : ℚ) ^ 93 ≤ 10 ^ 28 := by norm_num
      have reversed : (2 : ℚ) ^ (-twos) ≤ 10 ^ (-tens) :=
        zpow_le_zpow_of_pow_le bases two_pos (by norm_num) (by decide) (by omega)
          (by push_cast; omega)
      rw [zpow_neg, zpow_neg] at reversed
      exact (inv_le_inv₀ (zpow_pos two_pos _) (zpow_pos (by norm_num) _)).mp reversed

/-- The last grid of the search is finer than half of the last binary place. -/
theorem fine_of_canonical
    {number : Binary}
    (canonical : number.Canonical) :
    (10 : ℚ) ^ (number.topGrid - (21 : ℕ)) < 2 ^ (number.exponent - 1) := by
  have digits : number.mantissa.log2 < 53 :=
    (Nat.log2_lt canonical.positive.ne').mpr canonical.mantissa_lt
  have low := canonical.le_exponent
  have high := canonical.exponent_le
  obtain ⟨grid, isGrid⟩ : ∃ grid, number.topGrid - (21 : ℕ) = grid := ⟨_, rfl⟩
  rw [topGrid] at isGrid
  have tens : (10 : ℚ) ^ (grid + 16) ≤ 2 ^ ((number.mantissa.log2 : ℤ) + number.exponent) :=
    ten_zpow_le_two_zpow (by omega) (by omega) (by omega)
  have sixteen : (2 : ℚ) ^ (53 : ℤ) < 10 ^ (16 : ℤ) := by norm_num
  have scale : (0 : ℚ) < 10 ^ grid := zpow_pos (by norm_num) _
  rw [topGrid, isGrid]
  have scaled : (10 : ℚ) ^ grid * 2 ^ (53 : ℤ) < 2 ^ (number.exponent - 1) * 2 ^ (53 : ℤ) := by
    calc
      (10 : ℚ) ^ grid * 2 ^ (53 : ℤ) < 10 ^ grid * 10 ^ (16 : ℤ) := by gcongr
      _ = 10 ^ (grid + 16) := by rw [zpow_add₀ (by norm_num)]
      _ ≤ 2 ^ ((number.mantissa.log2 : ℤ) + number.exponent) := tens
      _ ≤ 2 ^ (number.exponent - 1 + 53) := zpow_le_zpow_right₀ one_le_two (by omega)
      _ = 2 ^ (number.exponent - 1) * 2 ^ (53 : ℤ) := by rw [zpow_add₀ two_ne_zero]
  exact lt_of_mul_lt_mul_right scaled (zpow_nonneg two_pos.le _)

/-- The shortest decimal of a number is attracted by it. -/
theorem attracts_shortest
    {number : Binary}
    (canonical : number.Canonical)
    (halfWay : HalfWay) :
    number.Attracts (number.shortest halfWay).value :=
  searchGrids_spec (by decide : 21 < 22)
    (exists_pointOn? halfWay (fine_of_canonical canonical))

end Binary

end SchemaScript
