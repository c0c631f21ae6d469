import SchemaScript.Decimal.Layout
import SchemaScript.Proofs.Decimal.Shortest
import SchemaScript.Proofs.Decimal.Text

namespace SchemaScript

/-!
# Floating-point numbers as text and back

A finite floating-point number is written as the text of a number that can be
read again: its shortest digits with a point among them, or with zeros between
them and the point, or with one digit before the point and a power of ten.  In
each of these forms the text stands for the shortest decimal, and is therefore
read as the floating-point number that was written.
-/

namespace FloatLayout

open NumberText (Digits)

/-! ## Digits without zeros at their end -/

/-- The zeros at the end of a list can be cut off and put back. -/
theorem eq_append_replicate
    (characters : List Char) :
    characters =
      characters.take
          (characters.length - (characters.reverse.takeWhile (· = '0')).length) ++
        List.replicate (characters.reverse.takeWhile (· = '0')).length '0' := by
  obtain ⟨zeros, isZeros⟩ :
      ∃ zeros, characters.reverse.takeWhile (· = '0') = zeros := ⟨_, rfl⟩
  obtain ⟨kept, isKept⟩ :
      ∃ kept : List Char, characters.reverse.dropWhile (· = '0') = kept.reverse :=
    ⟨_, (List.reverse_reverse _).symm⟩
  have allZero : zeros.reverse = List.replicate zeros.length '0' := by
    rw [List.eq_replicate_iff]
    refine ⟨List.length_reverse, ?_⟩
    intro character member
    rw [List.mem_reverse, ← isZeros] at member
    simpa using List.mem_takeWhile_imp member
  have split : characters = kept ++ List.replicate zeros.length '0' := by
    rw [← allZero, ← List.reverse_reverse kept, ← List.reverse_append, ← isZeros, ← isKept,
      List.takeWhile_append_dropWhile, List.reverse_reverse]
  have cutOff : characters.take (characters.length - zeros.length) = kept := by
    rw [split]
    exact List.take_left' (by simp)
  rw [isZeros, cutOff, ← split]

section Kept

variable
    {decimal : Decimal}

/-- The digits of a decimal are those kept and the zeros that its exponent counts. -/
theorem toDigits_eq
    (decimal : Decimal) :
    ∃ zeros : ℕ,
      Nat.toDigits 10 decimal.digits = (digitsOf decimal).1 ++ List.replicate zeros '0' ∧
        (digitsOf decimal).2 = decimal.exponent + zeros :=
  ⟨_, eq_append_replicate _, rfl⟩

/-- The digits of a positive decimal do not begin with zero, and they are not all dropped. -/
theorem head?_digitsOf
    (positive : 0 < decimal.digits) :
    ∃ first rest, (digitsOf decimal).1 = first :: rest ∧ first ≠ '0' := by
  obtain ⟨zeros, all, -⟩ := toDigits_eq decimal
  have noZero := NumberText.head?_toDigits_ne_zero positive
  have nonempty := Nat.toDigits_ne_nil (n := decimal.digits) (b := 10)
  rw [all] at noZero nonempty
  cases kept : (digitsOf decimal).1 with
  | nil =>
      rw [kept, List.nil_append] at noZero nonempty
      obtain ⟨fewer, rfl⟩ : ∃ fewer, zeros = fewer + 1 :=
        Nat.exists_eq_add_one_of_ne_zero fun none => nonempty (by rw [none]; rfl)
      exact (noZero rfl).elim
  | cons first rest =>
      refine ⟨first, rest, rfl, ?_⟩
      rintro rfl
      rw [kept] at noZero
      exact noZero rfl

/-- What is kept of the digits of a positive decimal is a run of digits. -/
theorem digits_digitsOf
    (positive : 0 < decimal.digits) :
    Digits (digitsOf decimal).1 := by
  obtain ⟨zeros, all, -⟩ := toDigits_eq decimal
  obtain ⟨first, rest, begins, -⟩ := head?_digitsOf positive
  refine ⟨by simp [begins], fun character member => ?_⟩
  apply (NumberText.digits_toDigits decimal.digits).2
  rw [all]
  exact List.mem_append_left _ member

/-- The value of a decimal from the digits that are kept. -/
theorem value_digitsOf
    (decimal : Decimal) :
    decimal.value = Decimal.ofDigits (digitsOf decimal).1 * 10 ^ (digitsOf decimal).2 := by
  obtain ⟨zeros, all, tail⟩ := toDigits_eq decimal
  have digits : decimal.digits = Decimal.ofDigits (digitsOf decimal).1 * 10 ^ zeros := by
    rw [← NumberText.ofDigits_append_zeros, ← all, NumberText.ofDigits_toDigits]
  rw [Decimal.value, tail, zpow_add₀ (by norm_num), zpow_natCast]
  conv_lhs => rw [digits]
  push_cast
  ring

end Kept

/-! ## The forms of a number -/

/-- Digits with the point in place, as the text of a number. -/
def placedText (negative : Bool) (digits : List Char) (tail : ℤ) : NumberText :=
  if 0 ≤ tail then
    { negative, whole := digits ++ List.replicate tail.toNat '0', fraction := some ['0'],
      exponent := none }
  else if (-tail).toNat < digits.length then
    { negative, whole := digits.take (digits.length - (-tail).toNat),
      fraction := some (digits.drop (digits.length - (-tail).toNat)), exponent := none }
  else
    { negative, whole := ['0'],
      fraction := some (List.replicate ((-tail).toNat - digits.length) '0' ++ digits),
      exponent := none }

/-- Digits with a power of ten, as the text of a number. -/
def scientificText (negative : Bool) (digits : List Char) (power : ℤ) : NumberText where
  negative := negative
  whole := digits.take 1
  fraction := if (digits.drop 1).isEmpty then none else some (digits.drop 1)
  exponent := some (decide (power < 0), Nat.toDigits 10 power.natAbs)

section Forms

variable
    {negative : Bool}
    {digits : List Char}

/-- A number with its point placed is written as its sign and its placed digits. -/
theorem characters_placedText
    (tail : ℤ) :
    (placedText negative digits tail).characters =
      (if negative then ['-'] else []) ++ interchange.placed digits tail := by
  unfold placedText placed
  split
  next =>
    simp [NumberText.characters, NumberText.fractionText, NumberText.exponentText, interchange]
  next =>
    split <;>
      simp [NumberText.characters, NumberText.fractionText, NumberText.exponentText, *]

theorem negative_placedText
    (tail : ℤ) :
    (placedText negative digits tail).negative = negative := by
  unfold placedText
  split
  · rfl
  · split <;> rfl

/-- A number with an exponent is written as its sign and its scientific digits. -/
theorem characters_scientificText
    (power : ℤ) :
    (scientificText negative digits power).characters =
      (if negative then ['-'] else []) ++ scientific digits power := by
  rw [NumberText.characters, scientificText, scientific, apply_ite NumberText.fractionText]
  simp [NumberText.fractionText, NumberText.exponentText]

/-! ## What the forms stand for -/

/-- A number's text that can be read again, as a floating-point number near to a value. -/
structure StandsFor (number : NumberText) (value : ℚ) : Prop where
  proper : number.Proper
  notWhole : number.isWhole = false
  value : number.magnitude.value = value

theorem isDigit_of_mem_zeros
    {count : ℕ}
    {character : Char}
    (member : character ∈ List.replicate count '0') :
    character.isDigit = true := by
  rw [List.eq_of_mem_replicate member]
  rfl

/-- A number with a point among its digits and without an exponent. -/
theorem standsFor_point
    {whole fraction : List Char}
    {value : ℚ}
    (wholeDigits : Digits whole)
    (noZeroInFront : ¬ (whole.head? = some '0' ∧ 1 < whole.length))
    (fractionDigits : Digits fraction)
    (isValue : value = Decimal.ofDigits (whole ++ fraction) * 10 ^ (-(fraction.length : ℤ))) :
    StandsFor { negative, whole, fraction := some fraction, exponent := none } value where
  proper :=
    { whole := wholeDigits
      noZeroInFront := noZeroInFront
      fraction := by
        intro _ isSome
        rwa [← Option.some.inj isSome]
      exponent := by
        intro _ _ isSome
        contradiction }
  notWhole := rfl
  value := by
    rw [isValue, Decimal.value, NumberText.magnitude, NumberText.power, Option.getD_some, zero_sub]

/-- Digits with the point in place stand for the digits times the power of ten of the last one. -/
theorem standsFor_placedText
    (isDigits : Digits digits)
    (noZeroInFront : digits.head? ≠ some '0')
    (tail : ℤ) :
    StandsFor (placedText negative digits tail) (Decimal.ofDigits digits * 10 ^ tail) := by
  obtain ⟨nonempty, decimal⟩ := isDigits
  unfold placedText
  split
  next upward =>
    refine standsFor_point ⟨by simp [nonempty], ?_⟩ (by simp [nonempty, noZeroInFront])
      ⟨by simp, by simp⟩ ?_
    · intro character member
      exact (List.mem_append.mp member).elim (decimal character) isDigit_of_mem_zeros
    · have written :
          digits ++ List.replicate tail.toNat '0' ++ ['0'] =
            digits ++ List.replicate (tail.toNat + 1) '0' := by
        rw [List.append_assoc, List.replicate_succ']
      have power : tail = ((tail.toNat + 1 : ℕ) : ℤ) + -((['0'].length : ℕ) : ℤ) := by
        simp
        omega
      rw [written, NumberText.ofDigits_append_zeros]
      conv_lhs => rw [power, zpow_add₀ (by norm_num), zpow_natCast]
      push_cast
      ring
  next downward =>
    split
    next among =>
      obtain ⟨places, isPlaces⟩ : ∃ places, digits.length - (-tail).toNat = places := ⟨_, rfl⟩
      rw [isPlaces]
      refine standsFor_point ⟨?_, ?_⟩ ?_ ⟨?_, ?_⟩ ?_
      · simp [nonempty]
        omega
      · exact fun character member => decimal character (List.mem_of_mem_take member)
      · have sameHead : (digits.take places).head? = digits.head? := by
          rw [List.head?_take, if_neg (by omega)]
        rw [sameHead]
        exact fun zeroInFront => noZeroInFront zeroInFront.1
      · simp
        omega
      · exact fun character member => decimal character (List.mem_of_mem_drop member)
      · rw [List.take_append_drop, List.length_drop]
        congr 2
        omega
    next before =>
      refine standsFor_point ⟨by simp, by simp⟩ (by simp) ⟨by simp [nonempty], ?_⟩ ?_
      · intro character member
        exact (List.mem_append.mp member).elim isDigit_of_mem_zeros (decimal character)
      · rw [List.singleton_append, ← List.cons_append, ← List.replicate_succ,
          NumberText.ofDigits_zeros_append, List.length_append, List.length_replicate]
        congr 2
        omega

/-- Digits with a power of ten for the first one stand for the digits times that of the last. -/
theorem standsFor_scientificText
    (isDigits : Digits digits)
    (tail : ℤ) :
    StandsFor (scientificText negative digits (tail + digits.length - 1))
      (Decimal.ofDigits digits * 10 ^ tail) := by
  obtain ⟨nonempty, decimal⟩ := isDigits
  obtain ⟨power, isPower⟩ : ∃ power, tail + digits.length - 1 = power := ⟨_, rfl⟩
  rw [isPower]
  have length : 0 < digits.length := List.length_pos_of_ne_nil nonempty
  constructor
  · constructor
    · refine ⟨by simp [scientificText, nonempty], fun character member => ?_⟩
      exact decimal character (List.mem_of_mem_take member)
    · simp [scientificText]
    · intro fraction isFraction
      rw [scientificText] at isFraction
      split at isFraction
      next =>
        contradiction
      next several =>
        rw [← Option.some.inj isFraction]
        refine ⟨by simpa using several, fun character member => ?_⟩
        exact decimal character (List.mem_of_mem_drop member)
    · intro negativePower powerDigits isExponent
      rw [← (Prod.mk.inj (Option.some.inj isExponent)).2]
      exact NumberText.digits_toDigits _
  · simp [NumberText.isWhole, scientificText]
  · have fraction : (scientificText negative digits power).fraction.getD [] = digits.drop 1 := by
      rw [scientificText]
      split
      next short =>
        rw [Option.getD_none, List.isEmpty_iff.mp short]
      next =>
        rw [Option.getD_some]
    have readPower : (scientificText negative digits power).power = power := by
      simp only [NumberText.power, scientificText, NumberText.ofDigits_toDigits, decide_eq_true_eq]
      split <;> omega
    have whole : (scientificText negative digits power).whole = digits.take 1 := rfl
    rw [Decimal.value, NumberText.magnitude, fraction, readPower, whole, List.take_append_drop,
      List.length_drop]
    dsimp only
    congr 2
    omega

end Forms

/-! ## Floating-point numbers -/

/-- A finite number is neither of the two kinds that no text stands for. -/
theorem not_isNaN_and_not_isInf
    {number : Float}
    (finite : number.isFinite = true) :
    number.isNaN = false ∧ number.isInf = false := by
  change number.toModel.unpack.isFinite = true at finite
  change number.toModel.unpack.isNaN = false ∧ number.toModel.unpack.isInf = false
  cases unpacked : number.toModel.unpack <;> rw [unpacked] at finite <;>
    first | exact ⟨rfl, rfl⟩ | contradiction

/-- A number of which nothing but its sign is encoded is zero. -/
theorem eq_zero_of_ofBits?
    {number : Float}
    (encoded : Binary.ofBits? number.toBits = none) :
    number = if number.toBits.toNat / 2 ^ 63 = 1 then -0 else 0 := by
  have bounded : number.toBits.toNat < 2 ^ 64 := number.toBits.toNat_lt
  simp only [Binary.ofBits?, Nat.pow_eq] at encoded
  split at encoded
  next noExponent =>
    split at encoded
    next noFraction =>
      rw [← Float.toBits_inj, ← UInt64.toNat_inj]
      split
      next negative =>
        have zero : (-0 : Float).toBits.toNat = 2 ^ 63 := by rfl
        omega
      next positive =>
        have zero : (0 : Float).toBits.toNat = 0 := by rfl
        omega
    next =>
      contradiction
  next =>
    contradiction

/-- The digits of a number in one of the two forms. -/
theorem exists_positive
    {binary : Binary}
    (canonical : binary.Canonical)
    (negative : Bool) :
    ∃ text : NumberText,
      text.negative = negative ∧
        text.characters = (if negative then ['-'] else []) ++ interchange.positive binary ∧
        StandsFor text (binary.shortest .toEven).value := by
  obtain ⟨positive, -⟩ :=
    Decimal.size_bounds canonical (Binary.attracts_shortest canonical .toEven)
  obtain ⟨first, rest, begins, notZero⟩ := head?_digitsOf positive
  obtain ⟨⟨digits, tail⟩, kept⟩ :
      ∃ kept, digitsOf (binary.shortest .toEven) = kept := ⟨_, rfl⟩
  have isDigits := digits_digitsOf positive
  rw [kept] at begins isDigits
  have noZeroInFront : digits.head? ≠ some '0' := by
    simpa [show digits = first :: rest from begins] using notZero
  have forms :
      interchange.positive binary = interchange.placed digits tail ∨
        interchange.positive binary = scientific digits (tail + digits.length - 1) := by
    simp only [FloatLayout.positive, show interchange.halfWay = .toEven from rfl, kept]
    split
    · exact .inl rfl
    · exact .inr rfl
  rw [value_digitsOf, kept]
  rcases forms with inPlace | withPower
  · refine ⟨placedText negative digits tail, ?_, ?_, standsFor_placedText isDigits noZeroInFront _⟩
    · exact negative_placedText tail
    · rw [inPlace, characters_placedText]
  · refine ⟨scientificText negative digits _, rfl, ?_, standsFor_scientificText isDigits _⟩
    rw [withPower, characters_scientificText]

/-- A finite number is written as a text that is no whole number and is read as the number. -/
theorem exists_write
    {number : Float}
    (finite : number.isFinite = true) :
    ∃ text : NumberText,
      (interchange.write number).toList = text.characters ∧
        text.Proper ∧ text.isWhole = false ∧ text.nearest? = some number := by
  -- The sign gets a name of its own: rewriting the number would rewrite it in its sign as well.
  obtain ⟨negative, isNegative⟩ :
      ∃ negative, decide (number.toBits.toNat / 2 ^ 63 = 1) = negative := ⟨_, rfl⟩
  have sign :
      (if number.toBits.toNat / 2 ^ 63 = 1 then "-" else "").toList =
        if negative then ['-'] else [] := by
    rw [← isNegative]
    split <;> simp_all
  obtain ⟨notNaN, notInfinite⟩ := not_isNaN_and_not_isInf finite
  simp only [write, notNaN, notInfinite, Bool.false_eq_true, if_false, Nat.pow_eq]
  cases encoded : Binary.ofBits? number.toBits with
  | none =>
      refine ⟨placedText negative ['0'] 0, ?_, ?_, rfl, ?_⟩
      · rw [String.toList_append, String.toList_ofList, sign, characters_placedText]
      · constructor <;> simp [placedText, Digits]
      · have noMagnitude : (placedText negative ['0'] 0).magnitude.nearest? = some 0 := by rfl
        rw [NumberText.nearest?, noMagnitude, Option.map_some, eq_zero_of_ofBits? encoded,
          ← isNegative]
        simp [NumberText.signed, placedText]
  | some binary =>
      obtain ⟨canonical, isFloat⟩ := Binary.eq_float_of_ofBits? finite encoded
      obtain ⟨text, sameSign, characters, standsFor⟩ := exists_positive canonical negative
      have attracts := Binary.attracts_shortest canonical .toEven
      rw [← standsFor.value] at attracts
      rw [Binary.signOf, apply_ite canonical.float] at isFloat
      refine ⟨text, ?_, standsFor.proper, standsFor.notWhole, ?_⟩
      · rw [String.toList_append, String.toList_ofList, sign, characters]
      · rw [NumberText.nearest?, Decimal.nearest?_eq canonical attracts, Option.map_some,
          NumberText.signed, sameSign, ← isNegative, canonical.neg_float]
        simp only [decide_eq_true_eq]
        exact congrArg some isFloat.symm

end FloatLayout

end SchemaScript
