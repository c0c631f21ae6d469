import SchemaScript.Decimal.Layout
import SchemaScript.Decimal.Reading

namespace SchemaScript

/-!
# Numbers in JSON texts

How a text holds floating-point numbers is a matter of the format that it is
written and read in.  The standard format writes the shortest digits to which
no other number is nearer.  It reads by scaling: as many digits as 64 bits hold
are taken for a whole number, which is multiplied or divided by a power of ten.
Every step rounds, so that a number can come back as a neighbour of the one
that was written.
-/

namespace Decimal

/-- Takes digits on to a number as far as 64 bits hold it, and gives those that are left over. -/
def gather (number : Nat) : List Char → Nat × List Char
  | [] => (number, [])
  | digit :: digits =>
      let longer := 10 * number + (digit.toNat - '0'.toNat)
      if longer < Nat.pow 2 64 then
        gather longer digits
      else
        (number, digit :: digits)

/-- The greatest power of ten that a number is scaled by in one step. -/
def greatestPower : Nat := 308

/-- A power of ten, rounded. -/
def powerOfTen (power : Nat) : Float :=
  Float.ofScientific 1 false power

/-- A decimal whose digits are rounded first and then scaled, unless it would be infinite. -/
def scaled? (decimal : Decimal) : Option Float :=
  let number := Float.ofNat decimal.digits
  let power := decimal.exponent.natAbs
  if decimal.exponent < 0 then
    if power ≤ greatestPower then
      some (number / powerOfTen power)
    else
      -- two steps are enough: what is left of 64 bits after them is zero
      let rest := min (power - greatestPower) greatestPower
      some (number / powerOfTen greatestPower / powerOfTen rest)
  else if decimal.digits = 0 then
    some 0
  else if power ≤ greatestPower then
    let product := number * powerOfTen power
    if product.isInf then none else some product
  else
    none

end Decimal

namespace NumberText

/--
The digits that a number is read by.  Those of the whole part that are left
over still count as powers of ten; those of the fraction are passed over.
-/
def gathered (number : NumberText) : Decimal :=
  let fraction := number.fraction.getD []
  let (whole, wholeLeft) := Decimal.gather 0 number.whole
  let (digits, fractionLeft) := Decimal.gather whole fraction
  let places := fraction.length - fractionLeft.length
  { digits, exponent := number.power + (wholeLeft.length : Int) - (places : Int) }

/-- The number read by scaling, unless it is out of range. -/
def scaled? (number : NumberText) : Option Float :=
  number.gathered.scaled?.map number.signed

end NumberText

/-- How texts hold finite floating-point numbers. -/
structure NumberFormat where
  /-- The text of a number. -/
  write : Float → String
  /-- The number whose text has some parts, unless it is out of range. -/
  read? : NumberText → Option Float

/-- The format of model files and settings. -/
def NumberFormat.standard : NumberFormat where
  write := FloatLayout.interchange.write
  read? := NumberText.scaled?

end SchemaScript
