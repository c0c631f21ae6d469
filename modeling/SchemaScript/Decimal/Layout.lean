import SchemaScript.Decimal.Shortest

namespace SchemaScript

/-!
# Layouts of floating-point numbers

How floating-point numbers are written.  Digits are always the shortest that
read back; a layout says which of two equally near digits is taken, which
numbers are written with a decimal point in place and what follows whole
numbers.
-/

/-- The decisions of one way to write floating-point numbers. -/
structure FloatLayout where
  halfWay : HalfWay
  /-- Whether a number whose first digit stands for this power of ten is written in place. -/
  inPlace : Int → Bool
  /-- What follows the digits of a whole number. -/
  wholeEnding : String
  notANumber : String
  infinity : String
  negativeInfinity : String

namespace FloatLayout

/-- Positional notation at any size, whole numbers as they are. -/
def plain : FloatLayout where
  halfWay := .away
  inPlace := fun _ => true
  wholeEnding := ""
  notANumber := "NaN"
  infinity := "inf"
  negativeInfinity := "-inf"

/--
Positional notation for leading powers of ten from -5 to 15, with a point in
every number; numbers that are not finite are null.
-/
def interchange : FloatLayout where
  halfWay := .toEven
  inPlace := fun power => -5 ≤ power ∧ power ≤ 15
  wholeEnding := ".0"
  notANumber := "null"
  infinity := "null"
  negativeInfinity := "null"

/-- Digits with the point in place; `tail` is the power of ten of the last digit. -/
def placed (layout : FloatLayout) (digits : List Char) (tail : Int) : List Char :=
  if 0 ≤ tail then
    digits ++ List.replicate tail.toNat '0' ++ layout.wholeEnding.toList
  else
    let places := (-tail).toNat
    if places < digits.length then
      digits.take (digits.length - places) ++ '.' :: digits.drop (digits.length - places)
    else
      ['0', '.'] ++ List.replicate (places - digits.length) '0' ++ digits

/-- Digits with one before the point and a power of ten, whose sign is always written. -/
def scientific (digits : List Char) (power : Int) : List Char :=
  let fraction := digits.drop 1
  let sign := if power < 0 then '-' else '+'
  digits.take 1 ++ (if fraction.isEmpty then [] else '.' :: fraction) ++
    'e' :: sign :: Nat.toDigits 10 power.natAbs

/-- The digits of a decimal without the zeros at their end, and the power of ten of the last one. -/
def digitsOf (decimal : Decimal) : List Char × Int :=
  let all := Nat.toDigits 10 decimal.digits
  let zeros := (all.reverse.takeWhile (· = '0')).length
  (all.take (all.length - zeros), decimal.exponent + zeros)

/-- A positive number in a layout. -/
def positive (layout : FloatLayout) (number : Binary) : List Char :=
  let (digits, tail) := digitsOf (number.shortest layout.halfWay)
  let power := tail + (digits.length : Int) - 1
  if layout.inPlace power then
    layout.placed digits tail
  else
    scientific digits power

/-- A floating-point number in a layout. -/
def write (layout : FloatLayout) (number : Float) : String :=
  let bits := number.toBits
  let negative := bits.toNat / Nat.pow 2 63 = 1
  let sign := if negative then "-" else ""
  if number.isNaN then
    layout.notANumber
  else if number.isInf then
    if negative then layout.negativeInfinity else layout.infinity
  else
    match Binary.ofBits? bits with
    | some binary => sign ++ String.ofList (layout.positive binary)
    | none => sign ++ String.ofList (layout.placed ['0'] 0)

end FloatLayout

end SchemaScript
