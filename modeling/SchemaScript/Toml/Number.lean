import SchemaScript.Calendar
import SchemaScript.Decimal.Reading
import SchemaScript.Text.Hex
import SchemaScript.Toml.Scan
import SchemaScript.Toml.Table

namespace SchemaScript.TomlScan

/-!
# TOML numbers, dates and times

What is written where a number, a date or a time can stand is held to the
rules for it, although its value is not kept.
-/

/-! ## Numbers -/

/-- Digits, which may be set apart by single underscores. -/
def digits (isDigit : Char → Bool) : TomlScan (List Char) := do
  let written ← run fun character => isDigit character || character = '_'
  if ((String.ofList written).splitOn "_").all (!·.isEmpty) then
    return written.filter isDigit
  else
    failure

/-- A sign, if there is one; whether it is a minus. -/
def sign? : TomlScan (Option Bool) := do
  if ← accept "-" then
    return some true
  else if ← accept "+" then
    return some false
  else
    return none

/-- The greatest whole number. -/
def greatestWhole : Nat := Nat.pow 2 63 - 1

/-- The number that digits stand for in a base. -/
def valueIn (base : Nat) (digits : List Char) : Nat :=
  digits.foldl (fun number digit => base * number + (hexDigit? digit).getD 0) 0

/-- A whole number in one of the bases that are named in front of the digits. -/
def basedNumber (base : Nat) : TomlScan Unit := do
  let written ← digits fun digit => (hexDigit? digit).any (· < base)
  if greatestWhole < valueIn base written then
    failure

/-- The whole part of a decimal number: no zeros in front of other digits. -/
def wholePart : TomlScan (List Char) := do
  let written ← digits Char.isDigit
  if written.head? = some '0' ∧ 1 < written.length then
    failure
  else
    return written

/-- Digits after a point, if there is one. -/
def fraction? : TomlScan (Option (List Char)) := do
  if ← accept "." then
    some <$> digits Char.isDigit
  else
    return none

/-- An exponent, if there is one. -/
def exponent? : TomlScan (Option (Bool × List Char)) := do
  if ← (do if ← accept "e" then return true else accept "E") then
    let negative := (← sign?).getD false
    return some (negative, ← digits Char.isDigit)
  else
    return none

/-- Whole numbers are kept in 64 bits; other numbers have no upper limit below zero. -/
def isInRange (number : NumberText) : Bool :=
  if number.isWhole then
    -(greatestWhole + 1 : Int) ≤ number.wholePart && number.wholePart ≤ greatestWhole
  else
    number.negative || number.nearest?.isSome

/-- A number. -/
def number : TomlScan Unit := do
  if ← accept "0x" then
    basedNumber 16
  else if ← accept "0o" then
    basedNumber 8
  else if ← accept "0b" then
    basedNumber 2
  else
    let negative := (← sign?).getD false
    if ← (do if ← accept "inf" then return true else accept "nan") then
      return ()
    let whole ← wholePart
    let fraction ← fraction?
    let exponent ← exponent?
    let parts : NumberText := { negative, whole, fraction, exponent }
    if isInRange parts then return () else failure

/-! ## Dates and times -/

/-- A number of some digits, between two bounds. -/
def fixedNumber (width low high : Nat) : TomlScan Nat := do
  let value := Decimal.ofDigits (← exactly width Char.isDigit)
  if low ≤ value ∧ value ≤ high then return value else failure

/-- A day of the calendar. -/
def date : TomlScan Unit := do
  let year ← fixedNumber 4 0 9999
  expect "-"
  let month ← fixedNumber 2 1 12
  expect "-"
  let day ← fixedNumber 2 1 31
  if (Date.ofParts? year month day).isSome then return () else failure

/-- A time of day, where a minute may end with a leap second. -/
def time : TomlScan Unit := do
  discard (fixedNumber 2 0 23)
  expect ":"
  discard (fixedNumber 2 0 59)
  expect ":"
  discard (fixedNumber 2 0 60)
  if ← accept "." then
    if (← run Char.isDigit).isEmpty then failure

/-- How far a time is from universal time. -/
def offset : TomlScan Unit := do
  if ← (do if ← accept "Z" then return true else accept "z") then
    return ()
  else
    match ← sign? with
    | none => failure
    | some _ =>
        discard (fixedNumber 2 0 23)
        expect ":"
        discard (fixedNumber 2 0 59)

/-- What parts a date from a time. -/
def dateEnd : TomlScan Unit := do
  discard (exactly 1 fun character => character = 'T' || character = 't' || character = ' ')

/-- A date, a time, or a date with a time. -/
def moment : TomlScan Unit := do
  if (← attempt date).isSome then
    discard <| attempt do
      dateEnd
      time
      discard (attempt offset)
  else
    time

/-- A date, a time or a number. -/
def measured : TomlScan Toml := do
  if (← attempt moment).isSome then
    return .moment
  else
    number
    return .number

end SchemaScript.TomlScan
