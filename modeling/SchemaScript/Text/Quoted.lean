import SchemaScript.Text.Visible

namespace SchemaScript.Text

/-!
# Quoted text

Text between quotation marks in which every character can be told: the
quotation mark, the backslash and the common controls are written with a
backslash, and other characters without a visible form of their own by code
point.
-/

/-- A code point in lower-case hexadecimal digits. -/
def hexadecimal (code : Nat) : List Char :=
  Nat.toDigits 16 code

/-- One character as quoted text writes it. -/
def quotedChar (character : Char) : List Char :=
  match character with
  | '\x00' => ['\\', '0']
  | '\t' => ['\\', 't']
  | '\r' => ['\\', 'r']
  | '\n' => ['\\', 'n']
  | '\\' => ['\\', '\\']
  | '"' => ['\\', '"']
  | other =>
      if isVisible other then
        [other]
      else
        ['\\', 'u', '\x7b'] ++ hexadecimal other.toNat ++ ['\x7d']

/-- Text between quotation marks. -/
def quoted (text : String) : String :=
  String.ofList (['"'] ++ text.toList.flatMap quotedChar ++ ['"'])

end SchemaScript.Text
