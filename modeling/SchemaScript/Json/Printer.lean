import SchemaScript.Json.Number
import SchemaScript.Json.Value

namespace SchemaScript.Json

/-!
# Writing JSON

A value is written on one line without blanks, or with a line for every item
and member and two blanks of indentation a level.  Both write scalars alike.
Numbers of a text over several lines can be written in any format.
-/

/-- A control character by its code: four hexadecimal digits. -/
def controlEscape (character : Char) : List Char :=
  ['\\', 'u', '0', '0', Nat.digitChar (character.toNat / 16), Nat.digitChar (character.toNat % 16)]

/-- One character of a text: quotation marks, backslashes and controls are escaped. -/
def escapeChar (character : Char) : List Char :=
  match character with
  | '"' => ['\\', '"']
  | '\\' => ['\\', '\\']
  | '\x08' => ['\\', 'b']
  | '\t' => ['\\', 't']
  | '\n' => ['\\', 'n']
  | '\x0c' => ['\\', 'f']
  | '\r' => ['\\', 'r']
  | other => if other.toNat < 0x20 then controlEscape other else [other]

/-- A text between quotation marks. -/
def writeText (text : String) : String :=
  String.ofList ('"' :: text.toList.flatMap escapeChar ++ ['"'])

/-- A floating-point number in a format; null unless it is finite. -/
def writeFloat (numbers : NumberFormat) (value : Float) : String :=
  if value.isFinite then numbers.write value else "null"

/-- Separates the parts of a line by commas. -/
def commaSeparated (parts : List String) : String :=
  ",".intercalate parts

/-- A line break and two blanks for every level. -/
def lineBreak (level : Nat) : String :=
  String.ofList ('\n' :: List.replicate (2 * level) ' ')

/-- The lines of an array or object between its brackets; nothing between them when it is empty. -/
def indented (level : Nat) (opening closing : String) (parts : List String) : String :=
  if parts.isEmpty then
    opening ++ closing
  else
    opening ++ lineBreak (level + 1) ++ ("," ++ lineBreak (level + 1)).intercalate parts ++
      lineBreak level ++ closing

mutual

/-- A value on one line. -/
def compact : Json → String
  | .null => "null"
  | .bool value => if value then "true" else "false"
  | .int value => toString value
  | .float value => writeFloat .standard value
  | .string text => writeText text
  | .array items => "[" ++ commaSeparated (compactItems items) ++ "]"
  | .object members => "\x7b" ++ commaSeparated (compactMembers members) ++ "\x7d"
termination_by structural value => value

/-- The items of an array on one line each. -/
def compactItems : List Json → List String
  | [] => []
  | item :: items => compact item :: compactItems items
termination_by structural items => items

/-- The members of an object on one line each. -/
def compactMembers : List (String × Json) → List String
  | [] => []
  | (name, value) :: members =>
      (writeText name ++ ":" ++ compact value) :: compactMembers members
termination_by structural members => members

end

mutual

/-- A value over several lines, its brackets at a level of indentation. -/
def prettyAt (numbers : NumberFormat) (level : Nat) : Json → String
  | .null => "null"
  | .bool value => if value then "true" else "false"
  | .int value => toString value
  | .float value => writeFloat numbers value
  | .string text => writeText text
  | .array items => indented level "[" "]" (prettyItems numbers (level + 1) items)
  | .object members => indented level "\x7b" "\x7d" (prettyMembers numbers (level + 1) members)
termination_by structural value => value

/-- The items of an array over several lines each. -/
def prettyItems (numbers : NumberFormat) (level : Nat) : List Json → List String
  | [] => []
  | item :: items => prettyAt numbers level item :: prettyItems numbers level items
termination_by structural items => items

/-- The members of an object over several lines each. -/
def prettyMembers (numbers : NumberFormat) (level : Nat) :
    List (String × Json) → List String
  | [] => []
  | (name, value) :: members =>
      (writeText name ++ ": " ++ prettyAt numbers level value) ::
        prettyMembers numbers level members
termination_by structural members => members

end

/-- A value over several lines, with its numbers in a format. -/
def prettyIn (numbers : NumberFormat) (value : Json) : String :=
  prettyAt numbers 0 value

end SchemaScript.Json
