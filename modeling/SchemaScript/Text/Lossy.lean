namespace SchemaScript

/-!
# Bytes as text

Any bytes can be shown as text.  What is not UTF-8 is shown as replacement
characters, one for each sequence that breaks off or cannot begin.
-/

/-- How a sequence of UTF-8 goes on after its first byte. -/
structure SequenceShape where
  /-- How many bytes follow. -/
  count : Nat
  /-- The bounds of the next byte, which are narrower than those of later ones. -/
  low : Nat
  high : Nat

/-- The sequence that a first byte begins; a byte that begins none is followed by nothing. -/
def SequenceShape.ofFirst (first : Nat) : SequenceShape :=
  if first < 0x80 then
    { count := 0, low := 0, high := 0 }
  else if first < 0xc2 ∨ 0xf4 < first then
    { count := 1, low := 1, high := 0 }
  else if first < 0xe0 then
    { count := 1, low := 0x80, high := 0xbf }
  else if first < 0xf0 then
    { count := 2
      low := if first = 0xe0 then 0xa0 else 0x80
      high := if first = 0xed then 0x9f else 0xbf }
  else
    { count := 3
      low := if first = 0xf0 then 0x90 else 0x80
      high := if first = 0xf4 then 0x8f else 0xbf }

/-- The bytes at the front of a list that continue a sequence. -/
def SequenceShape.continued (shape : SequenceShape) : List Nat → List Nat
  | [] => []
  | next :: rest =>
      if shape.count ≠ 0 ∧ shape.low ≤ next ∧ next ≤ shape.high then
        next :: (rest.take (shape.count - 1)).takeWhile fun byte => byte / 64 = 2
      else
        []

/-- The character of a sequence, or the replacement character when it breaks off. -/
def SequenceShape.character (shape : SequenceShape) (first : Nat) (later : List Nat) : Char :=
  if later.length = shape.count then
    let start := if shape.count = 0 then first else first % Nat.pow 2 (6 - shape.count)
    Char.ofNat (later.foldl (fun code byte => 64 * code + byte % 64) start)
  else
    '\ufffd'

/-- The characters of bytes; each takes one byte at least, so that as many steps are enough. -/
def lossyCharacters : Nat → List Nat → List Char
  | fuel + 1, first :: rest =>
      let shape := SequenceShape.ofFirst first
      let later := shape.continued rest
      shape.character first later :: lossyCharacters fuel (rest.drop later.length)
  | _, _ => []

/-- Bytes as text. -/
def lossyText (bytes : ByteArray) : String :=
  let codes := bytes.toList.map UInt8.toNat
  String.ofList (lossyCharacters codes.length codes)

end SchemaScript
