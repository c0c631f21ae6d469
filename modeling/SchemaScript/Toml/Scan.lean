namespace SchemaScript

/-!
# Scanning TOML

A scanner takes something off the front of a text, and fails where the text
does not go on as it has to.  Everything that repeats in a file is taken up in
pieces, of which a text has at most as many as it has characters.
-/

/-- Takes something off the front of a text. -/
abbrev TomlScan (α : Type) := StateT (List Char) Option α

namespace TomlScan

/-- Whether the text goes on with some characters. -/
def ahead (mark : String) : TomlScan Bool := do
  return mark.toList.isPrefixOf (← get)

/-- Takes some characters if the text goes on with them. -/
def accept (mark : String) : TomlScan Bool := do
  if ← ahead mark then
    modify (·.drop mark.length)
    return true
  else
    return false

/-- Takes some characters, which must come. -/
def expect (mark : String) : TomlScan Unit := do
  if ← accept mark then
    return ()
  else
    failure

/-- Takes the characters at the front that are of a kind, however many. -/
def run (kind : Char → Bool) : TomlScan (List Char) := do
  let taken := (← get).takeWhile kind
  modify (·.drop taken.length)
  return taken

/-- Takes as many characters of a kind as are asked for. -/
def exactly (count : Nat) (kind : Char → Bool) : TomlScan (List Char) := do
  let taken := (← get).take count
  if taken.length = count ∧ taken.all kind then
    modify (·.drop count)
    return taken
  else
    failure

/-- Takes pieces until there are no more, up to a number of them. -/
def gather {α : Type} (piece? : TomlScan (Option α)) : Nat → TomlScan (List α)
  | 0 => return []
  | fuel + 1 => do
      match ← piece? with
      | some piece => return piece :: (← gather piece? fuel)
      | none => return []

/-- Takes pieces until there are no more; every piece is at least one character long. -/
def many {α : Type} (piece? : TomlScan (Option α)) : TomlScan (List α) := do
  gather piece? (← get).length

/-- Takes something if it is there, and otherwise leaves the text as it is. -/
def attempt {α : Type} (scan : TomlScan α) : TomlScan (Option α) := fun text =>
  match scan text with
  | some (value, rest) => some (some value, rest)
  | none => some (none, text)

/-! ## Blanks, comments and ends of lines -/

/-- The characters that may stand between the parts of a line. -/
def isBlank (character : Char) : Bool :=
  character = ' ' || character = '\t'

/-- The characters of comments and of strings: control characters are left out but for the tab. -/
def isPlain (character : Char) : Bool :=
  character = '\t' || (' ' ≤ character && character ≠ '\x7f')

/-- Passes over blanks. -/
def blanks : TomlScan Unit :=
  discard (run isBlank)

/-- Takes the end of a line if there is one: a line feed, or a carriage return before it. -/
def newline : TomlScan Bool := do
  if ← accept "\n" then
    return true
  else
    accept "\r\n"

/-- Passes over a comment. -/
def comment : TomlScan Unit := do
  if ← accept "#" then
    discard (run isPlain)

/-- Passes over what may follow at the end of a line, which must end there or with the text. -/
def lineEnd : TomlScan Unit := do
  blanks
  comment
  if ← newline then
    return ()
  else if (← get).isEmpty then
    return ()
  else
    failure

/-- Passes over blanks, comments and ends of lines. -/
def gap : TomlScan Unit := do
  discard <| many do
    if ← newline then
      return some ()
    else if ← ahead "#" then
      comment
      return some ()
    else if (← run isBlank).isEmpty then
      return none
    else
      return some ()

end TomlScan

end SchemaScript
