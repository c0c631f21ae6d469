import SchemaScript.Json.Document
import SchemaScript.Json.Number
import SchemaScript.Text.Hex

namespace SchemaScript

/-!
# Reading JSON

Text is read into a document, from the left, as far as it is JSON.  Numbers
out of range, texts with half a surrogate pair and nesting beyond a limit
have no value but can be passed over; at anything else that is not JSON the
reading breaks off, and the arrays and objects around that place stay open.
What stands in the place of a member's name, or of the colon after it, is kept,
because some readers take it up before they find that the object breaks off.
What number a number's text stands for is left to the format.
-/

/-- What is left of a text, and how much of it has been read. -/
structure Cursor where
  offset : Nat
  rest : List Char

namespace Cursor

/-- The start of a text. -/
def start (text : String) : Cursor where
  offset := 0
  rest := text.toList

/-- Moves on by some characters. -/
def advance (cursor : Cursor) (count : Nat) : Cursor where
  offset := cursor.offset + count
  rest := cursor.rest.drop count

/-- The place of what follows, in a text that is decoded while it is scanned. -/
def place (cursor : Cursor) : Place where
  offset := cursor.offset
  supply := .text

/-- The place of the character that was read last. -/
def lastPlace (cursor : Cursor) : Place where
  offset := cursor.offset - 1
  supply := .text

/-- The characters that may stand between the parts of a document. -/
def isBlank (character : Char) : Bool :=
  character = ' ' || character = '\t' || character = '\n' || character = '\r'

/-- Passes over blanks. -/
def skipBlanks (cursor : Cursor) : Cursor :=
  cursor.advance (cursor.rest.takeWhile isBlank).length

end Cursor

/-- Something read from a text, and where reading goes on; broken where the text is not JSON. -/
structure Scan (α : Type) where
  value : α
  cursor : Cursor
  broken : Bool

/-- The ending of an array or object of which everything after the opening mark was read. -/
def Scan.ending {α : Type} (scan : Scan α) : Ending where
  place := if scan.broken then scan.cursor.place else scan.cursor.lastPlace
  closed := !scan.broken

namespace Json.Reader

/-- A word that stands for a value. -/
def scanWord (cursor : Cursor) (word : String) (value : Document) : Scan Document :=
  if word.toList.isPrefixOf cursor.rest then
    { value, cursor := cursor.advance word.length, broken := false }
  else
    { value := .flawed cursor.place, cursor, broken := true }

/-! ## Numbers -/

/-- Whole numbers that are kept as such. -/
def keepsWhole (number : Int) : Bool :=
  -Int.pow 2 63 ≤ number && number < Int.pow 2 64

/--
The value of a number: whole numbers stay whole as far as they are kept, and
minus zero is a floating-point number.
-/
def numberDocument (numbers : NumberFormat) (number : NumberText) (place : Place) : Document :=
  let whole := number.wholePart
  if number.isWhole ∧ keepsWhole whole ∧ (number.negative → whole ≠ 0) then
    .int place whole
  else
    match numbers.read? number with
    | some value => .float place value
    | none => .flawed place

/-- The digits at the front of a text. -/
def digitsOf (characters : List Char) : List Char :=
  characters.takeWhile Char.isDigit

/-- A fraction: nothing when there is none, and broken without a digit after the point. -/
def scanFraction (cursor : Cursor) : Scan (Option (List Char)) :=
  match cursor.rest with
  | '.' :: after =>
      let digits := digitsOf after
      { value := some digits
        cursor := cursor.advance (1 + digits.length)
        broken := digits.isEmpty }
  | _ => { value := none, cursor, broken := false }

/-- A sign and the digits after it; broken without a digit. -/
def scanPower (cursor : Cursor) : Scan (Option (Bool × List Char)) :=
  let negative := cursor.rest.head? = some '-'
  let signed := negative ∨ cursor.rest.head? = some '+'
  let digits := digitsOf (if signed then cursor.rest.drop 1 else cursor.rest)
  { value := some (negative, digits)
    cursor := cursor.advance ((if signed then 1 else 0) + digits.length)
    broken := digits.isEmpty }

/-- An exponent: nothing when there is none. -/
def scanExponent (cursor : Cursor) : Scan (Option (Bool × List Char)) :=
  match cursor.rest with
  | 'e' :: _ => scanPower (cursor.advance 1)
  | 'E' :: _ => scanPower (cursor.advance 1)
  | _ => { value := none, cursor, broken := false }

/-- A number: no zeros in front of other digits. -/
def scanNumber (numbers : NumberFormat) (cursor : Cursor) : Scan Document :=
  let negative := cursor.rest.head? = some '-'
  let unsigned := if negative then cursor.advance 1 else cursor
  let whole := digitsOf unsigned.rest
  let fraction := scanFraction (unsigned.advance whole.length)
  let exponent := scanExponent fraction.cursor
  if whole.isEmpty ∨ (whole.head? = some '0' ∧ 1 < whole.length) ∨
      fraction.broken ∨ exponent.broken then
    { value := .flawed cursor.place, cursor, broken := true }
  else
    let number : NumberText :=
      { negative, whole, fraction := fraction.value, exponent := exponent.value }
    { value := numberDocument numbers number cursor.place
      cursor := exponent.cursor
      broken := false }

/-! ## Texts -/

/-- The code unit that four hexadecimal digits stand for. -/
def codeUnit? (first second third fourth : Char) : Option Nat :=
  hexNumber? [first, second, third, fourth]

/-- The character that a backslash and a letter stand for. -/
def shortEscape? : Char → Option Char
  | '"' => some '"'
  | '\\' => some '\\'
  | '/' => some '/'
  | 'b' => some '\x08'
  | 'f' => some '\x0c'
  | 'n' => some '\n'
  | 'r' => some '\r'
  | 't' => some '\t'
  | _ => none

/-- A piece of a text: a character, or a code unit written in hexadecimal. -/
inductive Piece where
  | char (character : Char)
  | unit (code : Nat)

/--
The pieces of a text after its opening quotation mark, and how many
characters they and the closing mark take; nothing where the text breaks off,
holds a control character or an escape that does not exist.
-/
def scanPieces (count : Nat) : List Char → Option (List Piece × Nat)
  | '"' :: _ => some ([], count + 1)
  | '\\' :: 'u' :: first :: second :: third :: fourth :: rest =>
      match codeUnit? first second third fourth with
      | some code =>
          (scanPieces (count + 6) rest).map fun (pieces, total) => (.unit code :: pieces, total)
      | none => none
  | '\\' :: letter :: rest =>
      match shortEscape? letter with
      | some character =>
          (scanPieces (count + 2) rest).map fun (pieces, total) =>
            (.char character :: pieces, total)
      | none => none
  | character :: rest =>
      if character.toNat < 0x20 ∨ character = '\\' then
        none
      else
        (scanPieces (count + 1) rest).map fun (pieces, total) =>
          (.char character :: pieces, total)
  | [] => none

/-- Whether a code unit is the first half of a pair. -/
def isLeading (code : Nat) : Bool :=
  0xd800 ≤ code && code < 0xdc00

/-- Whether a code unit is the second half of a pair. -/
def isTrailing (code : Nat) : Bool :=
  0xdc00 ≤ code && code < 0xe000

/-- The characters of a text; nothing when half a pair stands alone. -/
def joinPieces : List Piece → Option (List Char)
  | [] => some []
  | .char character :: pieces => (joinPieces pieces).map (character :: ·)
  | .unit leading :: .unit trailing :: pieces =>
      if isLeading leading then
        if isTrailing trailing then
          (joinPieces pieces).map
            (Char.ofNat (0x10000 + (leading - 0xd800) * 0x400 + (trailing - 0xdc00)) :: ·)
        else
          none
      else if isTrailing leading then
        none
      else
        (joinPieces (.unit trailing :: pieces)).map (Char.ofNat leading :: ·)
  | .unit code :: pieces =>
      if isLeading code ∨ isTrailing code then
        none
      else
        (joinPieces pieces).map (Char.ofNat code :: ·)

/-- A text with its quotation marks. -/
def scanText (cursor : Cursor) : Scan Document :=
  match scanPieces 1 (cursor.rest.drop 1) with
  | some (pieces, count) =>
      match joinPieces pieces with
      | some characters =>
          { value := .string cursor.place (String.ofList characters)
            cursor := cursor.advance count
            broken := false }
      | none =>
          { value := .flawed cursor.place, cursor := cursor.advance count, broken := false }
  | none => { value := .flawed cursor.place, cursor, broken := true }

/-! ## Values -/

/-- Whether a character can begin a number. -/
def beginsNumber (character : Char) : Bool :=
  character.isDigit || character = '-'

mutual

/--
A value.  `levels` is how many arrays and objects may still be opened inside
one another, and `fuel` bounds the steps: two for each character are enough.
-/
def scanValue (numbers : NumberFormat) (levels : Nat) : Nat → Cursor → Scan Document
  | 0, cursor => { value := .flawed cursor.place, cursor, broken := true }
  | fuel + 1, before =>
      let cursor := before.skipBlanks
      match cursor.rest with
      | 'n' :: _ => scanWord cursor "null" (.null cursor.place)
      | 't' :: _ => scanWord cursor "true" (.bool cursor.place true)
      | 'f' :: _ => scanWord cursor "false" (.bool cursor.place false)
      | '"' :: _ => scanText cursor
      | '[' :: _ =>
          let items := scanItems numbers (levels - 1) fuel true (cursor.advance 1)
          { items with
            value :=
              if levels = 0 then
                .tooDeep cursor.place true
              else
                .array cursor.place items.value items.ending }
      | '\x7b' :: _ =>
          let members := scanMembers numbers (levels - 1) fuel true (cursor.advance 1)
          { members with
            value :=
              if levels = 0 then
                .tooDeep cursor.place false
              else
                .object cursor.place members.value members.ending }
      | character :: _ =>
          if beginsNumber character then
            scanNumber numbers cursor
          else
            { value := .flawed cursor.place, cursor, broken := true }
      | [] => { value := .flawed cursor.place, cursor, broken := true }
termination_by structural fuel => fuel

/-- The items of an array up to its closing bracket; the first one needs no comma before it. -/
def scanItems (numbers : NumberFormat) (levels : Nat) :
    Nat → Bool → Cursor → Scan (List Document)
  | 0, _, cursor => { value := [], cursor, broken := true }
  | fuel + 1, first, before =>
      let cursor := before.skipBlanks
      if cursor.rest.head? = some ']' then
        { value := [], cursor := cursor.advance 1, broken := false }
      else if !first ∧ cursor.rest.head? ≠ some ',' then
        { value := [], cursor, broken := true }
      else
        let item := scanValue numbers levels fuel (if first then cursor else cursor.advance 1)
        if item.broken then
          { value := [item.value], cursor := item.cursor, broken := true }
        else
          let later := scanItems numbers levels fuel false item.cursor
          { later with value := item.value :: later.value }
termination_by structural fuel => fuel

/--
The members of an object up to its closing brace.  The object breaks off at a
name that is not text and at a colon that is not there.
-/
def scanMembers (numbers : NumberFormat) (levels : Nat) :
    Nat → Bool → Cursor → Scan (List (Document × Document))
  | 0, _, cursor => { value := [], cursor, broken := true }
  | fuel + 1, first, before =>
      let cursor := before.skipBlanks
      if cursor.rest.head? = some '\x7d' then
        { value := [], cursor := cursor.advance 1, broken := false }
      else if !first ∧ cursor.rest.head? ≠ some ',' then
        { value := [], cursor, broken := true }
      else
        let opening := (if first then cursor else cursor.advance 1).skipBlanks
        let name := scanValue numbers levels fuel opening
        if name.broken ∨ opening.rest.head? ≠ some '"' then
          { value := [(name.value, .flawed opening.place)], cursor := opening, broken := true }
        else
          let colon := name.cursor.skipBlanks
          if colon.rest.head? ≠ some ':' then
            { value := [(name.value, .flawed colon.place)], cursor := colon, broken := true }
          else
            let member := scanValue numbers levels fuel (colon.advance 1)
            if member.broken then
              { value := [(name.value, member.value)]
                cursor := member.cursor
                broken := true }
            else
              let later := scanMembers numbers levels fuel false member.cursor
              { later with value := (name.value, member.value) :: later.value }
termination_by structural fuel => fuel

end

/-- A text as one document, and the fault of what follows it. -/
def scan (numbers : NumberFormat) (levels : Nat) (text : String) : Document × Option Fault :=
  let characters := text.toList
  let root := scanValue numbers levels (2 * characters.length + 2) (Cursor.start text)
  let ending := root.cursor.skipBlanks
  if !root.broken ∧ !ending.rest.isEmpty then
    (root.value, some ending.place.malformed)
  else
    (root.value, none)

end Json.Reader

namespace Json

/-- How deep arrays and objects may be nested in a model file. -/
def nestingLimit : Nat := 127

/-- The value of a text in a format; nothing when it is not JSON within a limit of nesting. -/
def readIn? (numbers : NumberFormat) (levels : Nat) (text : String) : Option Json :=
  match Reader.scan numbers levels text with
  | (document, none) => ofDocument? document
  | (_, some _) => none

/-- The value of a text; nothing when it is not JSON within a limit of nesting. -/
def readWithin? (levels : Nat) (text : String) : Option Json :=
  readIn? .standard levels text

/-- The value of a text; nothing when it is not JSON. -/
def read? (text : String) : Option Json :=
  readWithin? nestingLimit text

end Json

end SchemaScript
