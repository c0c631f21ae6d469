namespace SchemaScript.Text

/-!
# Digests

The SHA-256 digest of a text, in hexadecimal.  Names of constraints and
indexes end in the first characters of one.
-/

namespace Digest

/-- The constant that each round adds. -/
def roundConstants : List UInt32 :=
  [0x428a2f98, 0x71374491, 0xb5c0fbcf, 0xe9b5dba5, 0x3956c25b, 0x59f111f1, 0x923f82a4, 0xab1c5ed5,
   0xd807aa98, 0x12835b01, 0x243185be, 0x550c7dc3, 0x72be5d74, 0x80deb1fe, 0x9bdc06a7, 0xc19bf174,
   0xe49b69c1, 0xefbe4786, 0x0fc19dc6, 0x240ca1cc, 0x2de92c6f, 0x4a7484aa, 0x5cb0a9dc, 0x76f988da,
   0x983e5152, 0xa831c66d, 0xb00327c8, 0xbf597fc7, 0xc6e00bf3, 0xd5a79147, 0x06ca6351, 0x14292967,
   0x27b70a85, 0x2e1b2138, 0x4d2c6dfc, 0x53380d13, 0x650a7354, 0x766a0abb, 0x81c2c92e, 0x92722c85,
   0xa2bfe8a1, 0xa81a664b, 0xc24b8b70, 0xc76c51a3, 0xd192e819, 0xd6990624, 0xf40e3585, 0x106aa070,
   0x19a4c116, 0x1e376c08, 0x2748774c, 0x34b0bcb5, 0x391c0cb3, 0x4ed8aa4a, 0x5b9cca4f, 0x682e6ff3,
   0x748f82ee, 0x78a5636f, 0x84c87814, 0x8cc70208, 0x90befffa, 0xa4506ceb, 0xbef9a3f7, 0xc67178f2]

/-- The eight words that a digest is computed in. -/
structure Chain where
  a : UInt32
  b : UInt32
  c : UInt32
  d : UInt32
  e : UInt32
  f : UInt32
  g : UInt32
  h : UInt32

namespace Chain

/-- The words before the first block. -/
def start : Chain where
  a := 0x6a09e667
  b := 0xbb67ae85
  c := 0x3c6ef372
  d := 0xa54ff53a
  e := 0x510e527f
  f := 0x9b05688c
  g := 0x1f83d9ab
  h := 0x5be0cd19

/-- Adds word by word. -/
def add (left right : Chain) : Chain where
  a := left.a + right.a
  b := left.b + right.b
  c := left.c + right.c
  d := left.d + right.d
  e := left.e + right.e
  f := left.f + right.f
  g := left.g + right.g
  h := left.h + right.h

/-- The words in order. -/
def toList (chain : Chain) : List UInt32 :=
  [chain.a, chain.b, chain.c, chain.d, chain.e, chain.f, chain.g, chain.h]

end Chain

/-- Turns a word to the right, for amounts between 1 and 31. -/
def turnRight (word amount : UInt32) : UInt32 :=
  word >>> amount ||| word <<< (32 - amount)

/-- One round: mixes a round constant and a scheduled word into the chain. -/
def round (chain : Chain) (input : UInt32 × UInt32) : Chain :=
  let mixed := turnRight chain.e 6 ^^^ turnRight chain.e 11 ^^^ turnRight chain.e 25
  let chosen := (chain.e &&& chain.f) ^^^ (~~~chain.e &&& chain.g)
  let first := chain.h + mixed + chosen + input.1 + input.2
  let turned := turnRight chain.a 2 ^^^ turnRight chain.a 13 ^^^ turnRight chain.a 22
  let majority :=
    (chain.a &&& chain.b) ^^^ (chain.a &&& chain.c) ^^^ (chain.b &&& chain.c)
  { a := first + turned + majority
    b := chain.a
    c := chain.b
    d := chain.c
    e := chain.d + first
    f := chain.e
    g := chain.f
    h := chain.g }

/-- Extends a block's words, given last one first, by as many scheduled words as asked. -/
def schedule : Nat → List UInt32 → List UInt32
  | 0, scheduled => scheduled
  | count + 1, scheduled =>
      let near := scheduled.getD 1 0
      let far := scheduled.getD 14 0
      let next :=
        (turnRight near 17 ^^^ turnRight near 19 ^^^ near >>> 10) + scheduled.getD 6 0 +
          (turnRight far 7 ^^^ turnRight far 18 ^^^ far >>> 3) + scheduled.getD 15 0
      schedule count (next :: scheduled)

/-- The chain after one block of sixteen words. -/
def block (chain : Chain) (blockWords : List UInt32) : Chain :=
  let scheduled := (schedule 48 blockWords.reverse).reverse
  chain.add ((roundConstants.zip scheduled).foldl round chain)

/-- The chain after the blocks that `words` falls into; `count` bounds their number. -/
def blocks : Nat → Chain → List UInt32 → Chain
  | 0, chain, _ => chain
  | count + 1, chain, messageWords =>
      blocks count (block chain (messageWords.take 16)) (messageWords.drop 16)

/-- Four bytes at a time as words, most significant byte first. -/
def bigEndianWords : List UInt8 → List UInt32
  | first :: second :: third :: fourth :: rest =>
      (first.toUInt32 <<< 24 ||| second.toUInt32 <<< 16 ||| third.toUInt32 <<< 8 |||
        fourth.toUInt32) :: bigEndianWords rest
  | _ => []

/-- A number as eight bytes, most significant byte first. -/
def eightBytes (number : Nat) : List UInt8 :=
  [56, 48, 40, 32, 24, 16, 8, 0].map fun shift => UInt8.ofNat (number >>> shift)

/--
A message filled up to whole blocks: a one bit, zeros, and the message's
length in bits.
-/
def padded (message : List UInt8) : List UInt8 :=
  let zeros := (119 - message.length % 64) % 64
  message ++ [0x80] ++ List.replicate zeros 0 ++ eightBytes (message.length * 8)

/-- The digest of a message, as words. -/
def ofBytes (message : List UInt8) : List UInt32 :=
  let filled := padded message
  (blocks (filled.length / 64) Chain.start (bigEndianWords filled)).toList

/-- A word in eight hexadecimal digits. -/
def hexWord (word : UInt32) : List Char :=
  [28, 24, 20, 16, 12, 8, 4, 0].map fun shift =>
    Nat.digitChar (word.toNat >>> shift % 16)

end Digest

/-- The SHA-256 digest of a text in UTF-8, in 64 lower-case hexadecimal digits. -/
def digest (text : String) : String :=
  String.ofList ((Digest.ofBytes text.toUTF8.toList).flatMap Digest.hexWord)

end SchemaScript.Text
