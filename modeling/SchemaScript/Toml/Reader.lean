import SchemaScript.Toml.Number
import SchemaScript.Toml.Quoted

namespace SchemaScript

namespace TomlScan

/-!
# Reading TOML

A file is read line by line: entries, headers, comments and empty lines.
Keys and values are limited in depth.  The entries and the headers are put
together afterwards.
-/

/-! ## Keys -/

/-- Keys have fewer parts than this. -/
def keyLimit : Nat := 80

/-- The characters of keys without quotation marks. -/
def isBare (character : Char) : Bool :=
  character.isAlphanum || character = '-' || character = '_'

/-- A name in a key, which needs no quotation marks if all its characters are bare. -/
def keyName : TomlScan String := do
  let bare ← run isBare
  if !bare.isEmpty then
    return String.ofList bare
  else if ← accept "\"" then
    lineString '"'
  else
    expect "'"
    lineString '\''

/-- A part of a key: a name and the blanks around it. -/
def keyPart : TomlScan String := do
  blanks
  let name ← keyName
  blanks
  return name

/-- A key: parts with points between them. -/
def key : TomlScan Toml.Key := do
  let first ← keyPart
  let more ← many do
    if ← accept "." then
      some <$> keyPart
    else
      return none
  let parts := first :: more
  if parts.length < keyLimit then
    return { path := parts.dropLast, name := parts.getLast?.getD first }
  else
    failure

/-! ## Values -/

/-- How many arrays and inline tables may be opened inside one another. -/
def nestingLimit : Nat := 79

/-- Items with commas between them, each of which the comma can only follow. -/
def separated {α : Type} (item : TomlScan α) : TomlScan (List α) := do
  let first ← item
  let more ← many do
    if ← accept "," then
      some <$> item
    else
      return none
  return first :: more

/-- An item of an array, unless the array ends; a comma may stand before its end. -/
def arrayItem? (value : TomlScan Toml) : TomlScan (Option Toml) := do
  gap
  if ← ahead "]" then
    return none
  else
    let item ← value
    gap
    if ← accept "," then
      return some item
    else if ← ahead "]" then
      return some item
    else
      failure

/-- The items of an array, after its opening bracket. -/
def arrayItems (value : TomlScan Toml) : TomlScan Toml := do
  let items ← many (arrayItem? value)
  expect "]"
  return .array items

/-- A key, an equals sign and a value. -/
def entry (value : TomlScan Toml) : TomlScan Toml.Entry := do
  let key ← key
  expect "="
  blanks
  return { key, value := ← value }

/-- The entries of an inline table, after its opening brace. -/
def inlineEntries (value : TomlScan Toml) : TomlScan (List Toml.Entry) := do
  blanks
  if ← accept "\x7d" then
    return []
  else
    let entries ← separated do
      let found ← entry value
      blanks
      return found
    expect "\x7d"
    return entries

/-- A value that is neither an array nor an inline table. -/
def simpleValue : TomlScan Toml := do
  if ← accept "true" then
    return .bool true
  else if ← accept "false" then
    return .bool false
  else if (← get).head?.any (fun mark => mark = '"' || mark = '\'') then
    .string <$> quoted
  else
    measured

/-- A value, with at most a number of arrays and inline tables inside one another. -/
def value : Nat → TomlScan Toml
  | 0 => simpleValue
  | levels + 1 => do
      if ← accept "[" then
        arrayItems (value levels)
      else if ← accept "\x7b" then
        let entries ← inlineEntries (value levels)
        match Toml.addEntries? [] entries with
        | some members => return .table .inline members
        | none => failure
      else
        simpleValue

/-! ## Lines -/

/-- A line of a file. -/
inductive Line where
  | empty
  | entry (entry : Toml.Entry)
  | header (key : Toml.Key) (repeated : Bool)

/-- A header in brackets, or in two pairs of them. -/
def header : TomlScan Line := do
  if ← accept "[[" then
    let key ← key
    expect "]]"
    return .header key true
  else
    expect "["
    let key ← key
    expect "]"
    return .header key false

/-- What a line holds in front of its comment. -/
def lineContent : TomlScan Line := do
  if ← ahead "#" then
    return .empty
  else if ← ahead "[" then
    header
  else
    .entry <$> entry (value nestingLimit)

/-- A line, unless the text ends. -/
def line? : TomlScan (Option Line) := do
  blanks
  if (← get).isEmpty then
    return none
  else if ← newline then
    return some .empty
  else
    let line ← lineContent
    lineEnd
    return some line

/-- The lines of a file, which may begin with a byte order mark. -/
def lines : TomlScan (List Line) := do
  discard (accept "\ufeff")
  let found ← many line?
  if (← get).isEmpty then return found else failure

/-- The entries above all headers, and the sections below them. -/
def sections : List Line → List Toml.Entry × List Toml.Section
  | [] => ([], [])
  | line :: rest =>
      let (entries, later) := sections rest
      match line with
      | .empty => (entries, later)
      | .entry entry => (entry :: entries, later)
      | .header key repeated => ([], { key, repeated, entries } :: later)

end TomlScan

/-- The members of a TOML file; nothing when its text is not TOML. -/
def Toml.read? (text : String) : Option Toml.Members := do
  let (lines, _) ← TomlScan.lines text.toList
  let (top, sections) := TomlScan.sections lines
  assemble? top sections

end SchemaScript
