import Mathlib.Tactic.IntervalCases
import SchemaScript.Decimal.Reading

namespace SchemaScript

/-!
# The texts of numbers

A number's text is its sign, its whole part, its fraction and its exponent one
after another.  It can be read again when none of these parts lacks its digits
and the whole part has no zeros in front.
-/

namespace NumberText

/-- A fraction after its point, if there is one. -/
def fractionText : Option (List Char) → List Char
  | none => []
  | some digits => '.' :: digits

/-- An exponent after its letter and its sign, if there is one. -/
def exponentText : Option (Bool × List Char) → List Char
  | none => []
  | some (negative, digits) => 'e' :: (if negative then '-' else '+') :: digits

/-- The characters of a number. -/
def characters (number : NumberText) : List Char :=
  (if number.negative then ['-'] else []) ++
    (number.whole ++ (fractionText number.fraction ++ exponentText number.exponent))

/-- Some decimal digits and nothing else. -/
def Digits (characters : List Char) : Prop :=
  characters ≠ [] ∧ ∀ character ∈ characters, character.isDigit = true

/-! ## Digits -/

theorem digits_toDigits
    (number : Nat) :
    Digits (Nat.toDigits 10 number) :=
  ⟨Nat.toDigits_ne_nil, fun _ member =>
    Nat.isDigit_of_mem_toDigits (by decide) (by decide) member⟩

/-- The first digit of a number is not zero. -/
theorem head?_toDigits_ne_zero
    {number : Nat}
    (positive : 0 < number) :
    (Nat.toDigits 10 number).head? ≠ some '0' := by
  induction number using Nat.base_induction 10 (by decide) with
  | single digit small =>
      rw [Nat.toDigits_of_lt_base small]
      interval_cases digit <;> simp_all
  | digit rest last small restPositive inductionHypothesis =>
      obtain ⟨first, digits, begins⟩ :=
        List.exists_cons_of_ne_nil (Nat.toDigits_ne_nil (n := rest) (b := 10))
      rw [begins] at inductionHypothesis
      rw [← Nat.toDigits_append_toDigits (by decide) restPositive small, begins]
      exact inductionHypothesis restPositive

/-- Zeros at the end multiply a number by powers of ten. -/
theorem ofDigits_append_zeros
    (digits : List Char)
    (zeros : Nat) :
    Decimal.ofDigits (digits ++ List.replicate zeros '0') =
      Decimal.ofDigits digits * 10 ^ zeros := by
  change Nat.ofDigitChars 10 (digits ++ List.replicate zeros '0') 0 = _
  rw [Nat.ofDigitChars_append, Nat.ofDigitChars_replicate_zero, Nat.mul_comm]
  rfl

/-- Zeros in front do not change a number. -/
theorem ofDigits_zeros_append
    (digits : List Char)
    (zeros : Nat) :
    Decimal.ofDigits (List.replicate zeros '0' ++ digits) = Decimal.ofDigits digits := by
  change Nat.ofDigitChars 10 (List.replicate zeros '0' ++ digits) 0 = _
  rw [Nat.ofDigitChars_append, Nat.ofDigitChars_replicate_zero, Nat.mul_zero]
  rfl

theorem ofDigits_toDigits
    (number : Nat) :
    Decimal.ofDigits (Nat.toDigits 10 number) = number :=
  Nat.ofDigitChars_ten_toDigits

/-! ## Numbers that can be read again -/

/-- A number that can be read again from its characters. -/
structure Proper (number : NumberText) : Prop where
  whole : Digits number.whole
  noZeroInFront : ¬ (number.whole.head? = some '0' ∧ 1 < number.whole.length)
  fraction : ∀ digits, number.fraction = some digits → Digits digits
  exponent : ∀ negative digits, number.exponent = some (negative, digits) → Digits digits

/-! ## Whole numbers -/

/-- A whole number's text. -/
def ofInt (value : Int) : NumberText where
  negative := decide (value < 0)
  whole := Nat.toDigits 10 value.natAbs
  fraction := none
  exponent := none

theorem characters_ofInt
    (value : Int) :
    (ofInt value).characters = (toString value).toList := by
  cases value with
  | ofNat number =>
      change _ = (Nat.repr number).toList
      have notNegative : ¬ (Int.ofNat number < 0) := Int.not_lt.mpr (Int.natCast_nonneg number)
      simp only [ofInt, characters, notNegative, Nat.toList_repr]
      simp [fractionText, exponentText]
  | negSucc number =>
      change _ = ("-" ++ Nat.repr (number + 1)).toList
      have negative : Int.negSucc number < 0 := Int.negSucc_lt_zero number
      simp only [ofInt, characters, negative, String.toList_append, Nat.toList_repr]
      simp [fractionText, exponentText]

theorem proper_ofInt
    (value : Int) :
    (ofInt value).Proper where
  whole := digits_toDigits _
  noZeroInFront := by
    intro zeroInFront
    obtain ⟨isZero, several⟩ := zeroInFront
    rcases Nat.eq_zero_or_pos value.natAbs with none | some
    · rw [ofInt, none] at several
      contradiction
    · exact head?_toDigits_ne_zero some isZero
  fraction := by
    intro _ isSome
    contradiction
  exponent := by
    intro _ _ isSome
    contradiction

theorem wholePart_ofInt
    (value : Int) :
    (ofInt value).wholePart = value := by
  rw [wholePart, ofInt]
  simp only [ofDigits_toDigits, decide_eq_true_eq]
  split <;> omega

end NumberText

end SchemaScript
