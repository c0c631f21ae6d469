namespace SchemaScript

/-!
# Calendar dates

Days of the Gregorian calendar, which is continued to the years before it was
introduced, and the eight digits by which files are sorted by date.
-/

/-- Leap years: every fourth, but of the full centuries only every fourth. -/
def isLeapYear (year : Int) : Bool :=
  year % 4 = 0 && (year % 100 ≠ 0 || year % 400 = 0)

/-- How many days a month has. -/
def daysInMonth (year : Int) (month : Nat) : Nat :=
  if month = 2 then
    if isLeapYear year then 29 else 28
  else if month = 4 ∨ month = 6 ∨ month = 9 ∨ month = 11 then
    30
  else
    31

/-- A day of the calendar. -/
structure Date where
  year : Int
  month : Nat
  day : Nat
  month_valid : 1 ≤ month ∧ month ≤ 12
  day_valid : 1 ≤ day ∧ day ≤ daysInMonth year month
  deriving DecidableEq

namespace Date

/-- The first year that dates are kept for. -/
def firstYear : Int := -262143

/-- The last year that dates are kept for. -/
def lastYear : Int := 262142

/-- The date of a year, a month and a day, if there is one. -/
def ofParts? (year : Int) (month day : Nat) : Option Date :=
  if h : (1 ≤ month ∧ month ≤ 12) ∧ 1 ≤ day ∧ day ≤ daysInMonth year month then
    if firstYear ≤ year ∧ year ≤ lastYear then
      some { year, month, day, month_valid := h.1, day_valid := h.2 }
    else
      none
  else
    none

/-- A number with zeros in front of it up to a width. -/
def padded (width number : Nat) : String :=
  let digits := toString number
  String.ofList (List.replicate (width - digits.length) '0') ++ digits

/-- A year in four digits; with a sign before the year zero and after the year 9999. -/
def yearText (year : Int) : String :=
  if year < 0 then
    "-" ++ padded 4 year.natAbs
  else if 9999 < year then
    "+" ++ padded 4 year.natAbs
  else
    padded 4 year.natAbs

/-- A date as it stands in names of files: year, month and day without anything between them. -/
def stamp (date : Date) : String :=
  yearText date.year ++ padded 2 date.month ++ padded 2 date.day

end Date

end SchemaScript
