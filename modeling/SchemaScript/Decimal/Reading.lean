import SchemaScript.Decimal.Shortest

namespace SchemaScript

/-!
# Reading decimals

The floating-point number nearest to a decimal.  Decimals beyond the greatest
finite number have none; those below the least positive one are zero.  Sizes
are judged by the number of digits first, so that exponents of any length are
read in bounded time.  A number's text comes apart into its sign, its whole part,
its fraction and its exponent.
-/

namespace Decimal

/-- How many decimal digits a natural number has. -/
def digitCount (number : Nat) : Nat :=
  (Nat.toDigits 10 number).length

/-- The nearest floating-point number, unless it would be infinite. -/
def nearest? (decimal : Decimal) : Option Float :=
  let size := decimal.exponent + (digitCount decimal.digits : Int)
  if decimal.digits = 0 ∨ size < -400 then
    some 0
  else if 400 < size then
    none
  else
    let number :=
      Float.ofScientific decimal.digits (decimal.exponent < 0) decimal.exponent.natAbs
    if number.isInf then none else some number

/-- The number that decimal digits stand for. -/
def ofDigits (digits : List Char) : Nat :=
  digits.foldl (fun number digit => 10 * number + (digit.toNat - '0'.toNat)) 0

end Decimal

/-- The parts of a number's text, where all digits are decimal. -/
structure NumberText where
  negative : Bool
  whole : List Char
  fraction : Option (List Char)
  exponent : Option (Bool × List Char)

namespace NumberText

/-- The whole number in front of the point, with its sign. -/
def wholePart (number : NumberText) : Int :=
  if number.negative then
    -(Decimal.ofDigits number.whole : Int)
  else
    Decimal.ofDigits number.whole

/-- Whether a number is written without a fraction and without an exponent. -/
def isWhole (number : NumberText) : Bool :=
  number.fraction.isNone && number.exponent.isNone

/-- The power of ten that the number's digits are multiplied by. -/
def power (number : NumberText) : Int :=
  match number.exponent with
  | some (negative, digits) =>
      if negative then -(Decimal.ofDigits digits : Int) else Decimal.ofDigits digits
  | none => 0

/-- The number without its sign. -/
def magnitude (number : NumberText) : Decimal where
  digits := Decimal.ofDigits (number.whole ++ number.fraction.getD [])
  exponent := number.power - ((number.fraction.getD []).length : Int)

/-- A number of this number's sign. -/
def signed (number : NumberText) (magnitude : Float) : Float :=
  if number.negative then -magnitude else magnitude

/-- The nearest floating-point number, unless it would be infinite. -/
def nearest? (number : NumberText) : Option Float :=
  number.magnitude.nearest?.map number.signed

end NumberText

end SchemaScript
