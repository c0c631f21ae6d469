import SchemaScript.Proofs.Decimal.Layout
import SchemaScript.Proofs.Json.Text

namespace SchemaScript

/-!
# Numbers in JSON

A number's text is its sign, its whole part, its fraction and its exponent one
after another.  A reader finds the same parts again when none of them lacks its
digits, the whole part has no zeros in front, and what follows the number
cannot be taken for more of it.

Whether these parts stand for the number that was written is up to the format.
It is inverse when they do for every finite number.  The format that reads the
nearest number is inverse; the standard one writes the same texts, but does not
read all of them back.
-/

/-! ## Formats -/

namespace NumberFormat

variable {numbers : NumberFormat}

/-- Finite numbers are written as the texts of numbers that are not whole. -/
def WritesNumbers (numbers : NumberFormat) : Prop :=
  ∀ value : Float, value.isFinite = true →
    ∃ number : NumberText,
      (numbers.write value).toList = number.characters ∧
        number.Proper ∧ number.isWhole = false

/-- A number is written as the text of a number that is not whole, and read from it. -/
def ReadsBack (numbers : NumberFormat) (value : Float) : Prop :=
  ∃ number : NumberText,
    (numbers.write value).toList = number.characters ∧
      number.Proper ∧ number.isWhole = false ∧ numbers.read? number = some value

/-- The reader undoes the writer on finite numbers. -/
def IsInverse (numbers : NumberFormat) : Prop :=
  ∀ value : Float, value.isFinite = true → numbers.ReadsBack value

/-- What is read back was written as a number. -/
theorem IsInverse.writesNumbers
    (inverse : numbers.IsInverse) :
    numbers.WritesNumbers := by
  intro value finite
  obtain ⟨number, characters, proper, notWhole, -⟩ := inverse value finite
  exact ⟨number, characters, proper, notWhole⟩

/-- The format that writes as the standard one does and reads the nearest number. -/
def nearest : NumberFormat where
  write := FloatLayout.interchange.write
  read? := NumberText.nearest?

/-- Digits that are nearest to no other number are read as the number that they were written for. -/
theorem isInverse_nearest :
    nearest.IsInverse :=
  fun _ finite => FloatLayout.exists_write finite

/-- What the standard format reads may be a neighbour of the number that was written. -/
example :
    let number : NumberText :=
      { negative := false
        whole := ['0']
        fraction := some "9007589171439481".toList
        exponent := none }
    nearest.read? number = some 0.9007589171439481 ∧
      standard.read? number = some 0.900758917143948 := by
  decide +kernel

/-- The standard format writes the same texts as one that is inverse. -/
theorem writesNumbers_standard :
    standard.WritesNumbers :=
  isInverse_nearest.writesNumbers

end NumberFormat

/-! ## Scanning -/

namespace Json.Reader

open NumberText

/-- Whether a character can stand in a number after its first digit. -/
def continuesNumber (character : Char) : Bool :=
  character.isDigit || character = '.' || character = 'e' || character = 'E'

/-- What follows a number and cannot be taken for more of it. -/
def EndsNumber (rest : List Char) : Prop :=
  ∀ character, rest.head? = some character → continuesNumber character = false

/-- A number ends in front of a character that it cannot go on with. -/
theorem endsNumber_cons
    {character : Char}
    {rest : List Char}
    (ends : continuesNumber character = false) :
    EndsNumber (character :: rest) := by
  intro first isFirst
  rw [List.head?_cons, Option.some.injEq] at isFirst
  rwa [← isFirst]

/-- Digits are read up to what is none. -/
theorem digitsOf_append
    {digits rest : List Char}
    (decimal : ∀ character ∈ digits, character.isDigit = true)
    (stops : ∀ character, rest.head? = some character → character.isDigit = false) :
    digitsOf (digits ++ rest) = digits :=
  takeWhile_append_stops decimal stops

/-- What ends a number is no digit. -/
theorem EndsNumber.stops
    {rest : List Char}
    (ends : EndsNumber rest)
    (character : Char)
    (isFirst : rest.head? = some character) :
    character.isDigit = false := by
  have := ends character isFirst
  simp only [continuesNumber, Bool.or_eq_false_iff] at this
  exact this.1.1.1

/-- A fraction is found again. -/
theorem scanFraction_fractionText
    {cursor : Cursor}
    {fraction : Option (List Char)}
    {rest : List Char}
    (written : cursor.rest = fractionText fraction ++ rest)
    (proper : ∀ digits, fraction = some digits → Digits digits)
    (noPoint : rest.head? ≠ some '.')
    (stops : ∀ character, rest.head? = some character → character.isDigit = false) :
    (scanFraction cursor).value = fraction ∧
      (scanFraction cursor).broken = false ∧
      (scanFraction cursor).cursor.rest = rest := by
  cases fraction with
  | none =>
      unfold scanFraction
      split
      next after begins =>
        rw [written, fractionText, List.nil_append] at begins
        rw [begins] at noPoint
        exact (noPoint rfl).elim
      next =>
        exact ⟨rfl, rfl, written⟩
  | some digits =>
      obtain ⟨nonempty, decimal⟩ := proper digits rfl
      have begins : cursor.rest = '.' :: (digits ++ rest) := written
      have scan :
          scanFraction cursor =
            { value := some digits
              cursor := cursor.advance (1 + digits.length)
              broken := digits.isEmpty } := by
        simp only [scanFraction, begins, digitsOf_append decimal stops]
      rw [scan]
      refine ⟨rfl, by simpa using nonempty, ?_⟩
      exact Cursor.rest_advance written (by simp [fractionText, Nat.add_comm])

/-- An exponent is found again. -/
theorem scanExponent_exponentText
    {cursor : Cursor}
    {exponent : Option (Bool × List Char)}
    {rest : List Char}
    (written : cursor.rest = exponentText exponent ++ rest)
    (proper : ∀ negative digits, exponent = some (negative, digits) → Digits digits)
    (ends : EndsNumber rest) :
    (scanExponent cursor).value = exponent ∧
      (scanExponent cursor).broken = false ∧
      (scanExponent cursor).cursor.rest = rest := by
  cases exponent with
  | none =>
      have begins : cursor.rest = rest := written
      unfold scanExponent
      split
      next after first =>
        have := ends 'e' (by rw [← begins, first, List.head?_cons])
        contradiction
      next after first =>
        have := ends 'E' (by rw [← begins, first, List.head?_cons])
        contradiction
      next =>
        exact ⟨rfl, rfl, begins⟩
  | some power =>
      obtain ⟨negative, digits⟩ := power
      obtain ⟨nonempty, decimal⟩ := proper negative digits rfl
      have begins :
          cursor.rest = 'e' :: (if negative then '-' else '+') :: (digits ++ rest) := written
      have scan :
          scanExponent cursor =
            { value := some (negative, digits)
              cursor := (cursor.advance 1).advance (1 + digits.length)
              broken := digits.isEmpty } := by
        cases negative <;>
          simp [scanExponent, scanPower, begins, Cursor.advance,
            digitsOf_append decimal ends.stops]
      rw [scan]
      refine ⟨rfl, by simpa using nonempty, ?_⟩
      have signed :
          (cursor.advance 1).rest = (if negative then '-' else '+') :: digits ++ rest := by
        rw [Cursor.advance, begins]
        rfl
      exact Cursor.rest_advance signed (by simp [Nat.add_comm])

/-- What follows a whole part is no further digit of it. -/
theorem fractionText_append_stops
    (fraction : Option (List Char))
    {rest : List Char}
    (stops : ∀ character, rest.head? = some character → character.isDigit = false)
    (character : Char)
    (isFirst : (fractionText fraction ++ rest).head? = some character) :
    character.isDigit = false := by
  cases fraction with
  | none =>
      exact stops character isFirst
  | some digits =>
      rw [fractionText, List.cons_append, List.head?_cons, Option.some.injEq] at isFirst
      rw [← isFirst]
      rfl

/-- What follows a fraction is no point, and no further digit of it. -/
theorem exponentText_append_stops
    (exponent : Option (Bool × List Char))
    {rest : List Char}
    (ends : EndsNumber rest)
    (character : Char)
    (isFirst : (exponentText exponent ++ rest).head? = some character) :
    character.isDigit = false ∧ character ≠ '.' := by
  cases exponent with
  | none =>
      have := ends character isFirst
      simp only [continuesNumber, Bool.or_eq_false_iff, decide_eq_false_iff_not] at this
      exact this.1.1
  | some power =>
      rw [exponentText, List.cons_append, List.head?_cons, Option.some.injEq] at isFirst
      rw [← isFirst]
      decide

/-- A number begins with a sign exactly when it is negative. -/
theorem head?_characters_eq_minus_iff
    {number : NumberText}
    {rest : List Char}
    (whole : Digits number.whole) :
    (number.characters ++ rest).head? = some '-' ↔ number.negative = true := by
  obtain ⟨nonempty, decimal⟩ := whole
  obtain ⟨first, digits, isWhole⟩ := List.exists_cons_of_ne_nil nonempty
  have firstDigit : first.isDigit = true := decimal first (by simp [isWhole])
  have notMinus : first ≠ '-' := by
    rintro rfl
    contradiction
  cases negative : number.negative <;> simp [characters, negative, isWhole, notMinus]

/-- A number is found again, with all its parts. -/
theorem scanNumber_characters
    {numbers : NumberFormat}
    {cursor : Cursor}
    {number : NumberText}
    {rest : List Char}
    (written : cursor.rest = number.characters ++ rest)
    (proper : number.Proper)
    (ends : EndsNumber rest) :
    (scanNumber numbers cursor).value = numberDocument numbers number cursor.place ∧
      (scanNumber numbers cursor).broken = false ∧
      (scanNumber numbers cursor).cursor.rest = rest := by
  have afterFraction := exponentText_append_stops number.exponent ends
  have afterWhole :=
    fractionText_append_stops number.fraction fun character isFirst =>
      (afterFraction character isFirst).1
  unfold scanNumber
  extract_lets isNegative unsigned scannedWhole scannedFraction scannedExponent found
  have sign : isNegative ↔ number.negative = true := by
    simp only [isNegative, written, head?_characters_eq_minus_iff proper.whole]
  have unsignedRest :
      unsigned.rest =
        number.whole ++
          (fractionText number.fraction ++ (exponentText number.exponent ++ rest)) := by
    cases negative : number.negative with
    | false =>
        have plain : unsigned = cursor := if_neg (by simp [sign, negative])
        rw [plain, written]
        simp [characters, negative]
    | true =>
        have signed : unsigned = cursor.advance 1 := if_pos (sign.mpr negative)
        have begins :
            cursor.rest =
              ['-'] ++
                (number.whole ++
                  (fractionText number.fraction ++ (exponentText number.exponent ++ rest))) := by
          simp [written, characters, negative]
        rw [signed]
        exact Cursor.rest_advance begins rfl
  have wholeFound : scannedWhole = number.whole := by
    simp only [scannedWhole, unsignedRest, digitsOf_append proper.whole.2 afterWhole]
  have wholeRest :
      (unsigned.advance scannedWhole.length).rest =
        fractionText number.fraction ++ (exponentText number.exponent ++ rest) :=
    Cursor.rest_advance unsignedRest (by rw [wholeFound])
  obtain ⟨fractionFound, fractionScanned, fractionRest⟩ :
      scannedFraction.value = number.fraction ∧
        scannedFraction.broken = false ∧
        scannedFraction.cursor.rest = exponentText number.exponent ++ rest :=
    scanFraction_fractionText wholeRest proper.fraction
      (fun point => (afterFraction _ point).2 rfl)
      fun character isFirst => (afterFraction character isFirst).1
  obtain ⟨exponentFound, exponentScanned, exponentRest⟩ :
      scannedExponent.value = number.exponent ∧
        scannedExponent.broken = false ∧
        scannedExponent.cursor.rest = rest :=
    scanExponent_exponentText fractionRest proper.exponent ends
  have accepted :
      ¬ (scannedWhole.isEmpty = true ∨ scannedWhole.head? = some '0' ∧ 1 < scannedWhole.length ∨
        scannedFraction.broken = true ∨ scannedExponent.broken = true) := by
    simp [wholeFound, fractionScanned, exponentScanned, proper.whole.1]
    simpa using proper.noZeroInFront
  have sameNumber : found = number := by
    simp only [found, sign, Bool.decide_eq_true, wholeFound, fractionFound, exponentFound]
  rw [if_neg accepted, sameNumber]
  exact ⟨rfl, rfl, exponentRest⟩

end Json.Reader

end SchemaScript
