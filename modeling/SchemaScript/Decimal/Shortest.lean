namespace SchemaScript

/-!
# Shortest decimals

The decimal with the fewest digits that reads back as a given floating-point
number.  Every decimal strictly between the midpoints to the two neighbours
reads back as the number, and the midpoints themselves do when its mantissa
is even.  The search walks from coarse to fine grids of powers of ten and
stops at the first grid that has a point in this interval; the point nearest
to the number is taken.  Where two points are equally near, a rule that is
part of the request decides.
-/

/-- The number `digits × 10 ^ exponent`. -/
structure Decimal where
  digits : Nat
  exponent : Int
  deriving DecidableEq, Repr

/-- The positive number `mantissa × 2 ^ exponent`, and whether it is the least of its binade. -/
structure Binary where
  mantissa : Nat
  exponent : Int
  atBinadeStart : Bool
  deriving DecidableEq, Repr

/-- Which of two equally near points of a grid is taken. -/
inductive HalfWay where
  /-- The one further from zero. -/
  | away
  /-- The one whose last digit is even. -/
  | toEven
  deriving DecidableEq, Repr

namespace Binary

/-- The number that a floating-point number's bits encode, without its sign; nothing for zero. -/
def ofBits? (bits : UInt64) : Option Binary :=
  let fraction : Nat := bits.toNat % Nat.pow 2 52
  let biased : Nat := bits.toNat / Nat.pow 2 52 % Nat.pow 2 11
  if biased = 0 then
    if fraction = 0 then
      none
    else
      some { mantissa := fraction, exponent := -1074, atBinadeStart := false }
  else
    some {
      mantissa := Nat.pow 2 52 + fraction
      exponent := (biased : Int) - 1075
      atBinadeStart := fraction = 0 ∧ 1 < biased }

/--
How the number compares with `point × 10 ^ grid`, where the number is first
moved by `quarters` quarters of its last binary place.  Both sides are brought
to whole numbers.
-/
def comparePoint
    (number : Binary)
    (quarters : Int)
    (grid : Int)
    (point : Nat) : Ordering :=
  let twos := number.exponent - 2
  let left :=
    (4 * (number.mantissa : Int) + quarters) * Int.pow 2 twos.toNat * Int.pow 10 (-grid).toNat
  let right := (point : Int) * Int.pow 10 grid.toNat * Int.pow 2 (-twos).toNat
  compare left right

/-- Whether `point × 10 ^ grid` reads back as the number. -/
def readsBack
    (number : Binary)
    (grid : Int)
    (point : Nat) : Bool :=
  let below := number.comparePoint (if number.atBinadeStart then -1 else -2) grid point
  let above := number.comparePoint 2 grid point
  let onEdge := number.mantissa % 2 = 0
  (below = .lt ∨ (onEdge ∧ below = .eq)) ∧ (above = .gt ∨ (onEdge ∧ above = .eq))

/-- The greatest point of a grid that is not above the number. -/
def floorPoint (number : Binary) (grid : Int) : Nat :=
  (number.mantissa * Nat.pow 2 number.exponent.toNat * Nat.pow 10 (-grid).toNat) /
    (Nat.pow 2 (-number.exponent).toNat * Nat.pow 10 grid.toNat)

/--
Whether `point + 1` is taken rather than `point`, the greatest point of a grid
that is not above the number: it is when it is nearer, and half way between as
the rule says.
-/
def roundsAbove
    (number : Binary)
    (halfWay : HalfWay)
    (grid : Int)
    (point : Nat) : Bool :=
  let twos := number.exponent + 1
  let left := number.mantissa * Nat.pow 2 twos.toNat * Nat.pow 10 (-grid).toNat
  let right := (2 * point + 1) * Nat.pow 10 grid.toNat * Nat.pow 2 (-twos).toNat
  right < left ∨ (left = right ∧ (halfWay = .away ∨ point % 2 = 1))

/-- The point of a grid that reads back as the number and is nearest to it. -/
def pointOn?
    (number : Binary)
    (halfWay : HalfWay)
    (grid : Int) : Option Nat :=
  let lower := number.floorPoint grid
  let lowerReads := lower ≠ 0 ∧ number.readsBack grid lower
  let upperReads := number.readsBack grid (lower + 1)
  if lowerReads ∧ upperReads then
    some (if number.roundsAbove halfWay grid lower then lower + 1 else lower)
  else if lowerReads then
    some lower
  else if upperReads then
    some (lower + 1)
  else
    none

/-- Searches `count` grids from `grid` downwards for a point that reads back. -/
def searchGrids (number : Binary) (halfWay : HalfWay) : Nat → Int → Decimal
  | 0, _ => { digits := number.mantissa, exponent := 0 }
  | count + 1, grid =>
      match number.pointOn? halfWay grid with
      | some point => { digits := point, exponent := grid }
      | none => number.searchGrids halfWay count (grid - 1)

/-- The power of ten at which the search begins; it lies above the number. -/
def topGrid (number : Binary) : Int :=
  ((number.mantissa.log2 : Int) + number.exponent) * 30103 / 100000 + 2

/--
The shortest decimal that reads back as the number.  Seventeen digits always
do, so twenty-two grids below the top one are enough.
-/
def shortest (number : Binary) (halfWay : HalfWay) : Decimal :=
  number.searchGrids halfWay 22 number.topGrid

end Binary

end SchemaScript
