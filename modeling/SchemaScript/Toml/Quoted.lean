import SchemaScript.Text.Hex
import SchemaScript.Toml.Scan

namespace SchemaScript.TomlScan

/-!
# TOML strings

Strings stand between quotation marks, where a backslash begins an escape, or
between apostrophes, where every character stands for itself.  Three marks
instead of one enclose a string of several lines.
-/

/-- The character of a code point in hexadecimal digits. -/
def codePoint (width : Nat) : TomlScan Char := do
  let digits ← exactly width fun digit => (hexDigit? digit).isSome
  match hexNumber? digits with
  | some code => if code.isValidChar then return Char.ofNat code else failure
  | none => failure

/-- The character of an escape, after its backslash. -/
def escaped : TomlScan Char := do
  match ← exactly 1 fun _ => true with
  | ['b'] => return '\x08'
  | ['t'] => return '\t'
  | ['n'] => return '\n'
  | ['f'] => return '\x0c'
  | ['r'] => return '\r'
  | ['"'] => return '"'
  | ['\\'] => return '\\'
  | ['u'] => codePoint 4
  | ['U'] => codePoint 8
  | _ => failure

/-- A piece of a string between quotation marks. -/
def basicPiece? : TomlScan (Option (List Char)) := do
  let plain ← run fun character => isPlain character && character ≠ '"' && character ≠ '\\'
  if !plain.isEmpty then
    return some plain
  else if ← accept "\\" then
    return some [← escaped]
  else
    return none

/-- A piece of a string between apostrophes. -/
def literalPiece? : TomlScan (Option (List Char)) := do
  let plain ← run fun character => isPlain character && character ≠ '\''
  return if plain.isEmpty then none else some plain

/-- A backslash at the end of a line, which takes away all blanks and ends of lines after it. -/
def joinedLines : TomlScan Unit := do
  expect "\\"
  blanks
  if ← newline then
    discard <| many do
      if ← newline then
        return some ()
      else
        return if (← run isBlank).isEmpty then none else some ()
  else
    failure

/-- A piece of a string of several lines: what a piece of one line is, or the end of a line. -/
def linesPiece? (quote : Char) : TomlScan (Option (List Char)) := do
  if ← newline then
    return some ['\n']
  else if quote = '\'' then
    literalPiece?
  else if (← attempt joinedLines).isSome then
    return some []
  else
    basicPiece?

/-- Quotation marks that belong to a string of several lines: at most two of them stand together. -/
def innerMarks? (quote : Char) : TomlScan (Option (List Char)) := do
  let marks := (← get).takeWhile (· = quote)
  if marks.length = 1 ∨ marks.length = 2 then
    some <$> run (· = quote)
  else
    return none

/-- The end of a string of several lines: three marks, after at most two that belong to it. -/
def closingMarks (quote : Char) : TomlScan (List Char) := do
  let marks ← run (· = quote)
  if 3 ≤ marks.length ∧ marks.length ≤ 5 then
    return marks.drop 3
  else
    failure

/-- A string of several lines, after its opening marks; a first line that is empty is left out. -/
def linesString (quote : Char) : TomlScan String := do
  discard newline
  let pieces ← many do
    match ← innerMarks? quote with
    | some marks => return some marks
    | none => linesPiece? quote
  let last ← closingMarks quote
  return String.ofList (pieces.flatten ++ last)

/-- A string of one line, after its opening mark. -/
def lineString (quote : Char) : TomlScan String := do
  let pieces ← many (if quote = '\'' then literalPiece? else basicPiece?)
  expect (String.singleton quote)
  return String.ofList pieces.flatten

/-- A string in any of the four ways of writing one. -/
def quoted : TomlScan String := do
  if ← accept "\"\"\"" then
    linesString '"'
  else if ← accept "\"" then
    lineString '"'
  else if ← accept "'''" then
    linesString '\''
  else
    expect "'"
    lineString '\''

end SchemaScript.TomlScan
