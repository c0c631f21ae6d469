namespace SchemaScript

/-!
# Hexadecimal digits

Reading numbers to the base sixteen, with digits in either case.
-/

/-- The value of a hexadecimal digit. -/
def hexDigit? (character : Char) : Option Nat :=
  if character.isDigit then
    some (character.toNat - '0'.toNat)
  else if 'a' ≤ character ∧ character ≤ 'f' then
    some (character.toNat - 'a'.toNat + 10)
  else if 'A' ≤ character ∧ character ≤ 'F' then
    some (character.toNat - 'A'.toNat + 10)
  else
    none

/-- The number that hexadecimal digits stand for; nothing when other characters are among them. -/
def hexNumber? (digits : List Char) : Option Nat :=
  digits.foldlM (fun number digit => (hexDigit? digit).map (16 * number + ·)) 0

end SchemaScript
