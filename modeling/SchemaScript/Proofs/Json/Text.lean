import Mathlib.Data.List.TakeWhile
import Mathlib.Tactic.IntervalCases
import SchemaScript.Json.Printer
import SchemaScript.Json.Reader

namespace SchemaScript

/-!
# Texts in JSON

A text is written with its quotation marks, backslashes and control characters
escaped, and what is written is read back as the text, whatever follows it.
No character of the text is written as half of a surrogate pair, so the pieces
of what is written can be joined one by one.
-/

/-- After as many characters as a text has, the cursor stands behind the text. -/
theorem Cursor.rest_advance
    {cursor : Cursor}
    {characters rest : List Char}
    {count : Nat}
    (written : cursor.rest = characters ++ rest)
    (all : count = characters.length) :
    (cursor.advance count).rest = rest := by
  rw [advance, written, all, List.drop_left]

/-- The characters in front that have a property are taken, and no others. -/
theorem takeWhile_append_stops
    {property : Char → Bool}
    {front rest : List Char}
    (all : ∀ character ∈ front, property character = true)
    (stops : ∀ character, rest.head? = some character → property character = false) :
    (front ++ rest).takeWhile property = front := by
  rw [List.takeWhile_append_of_pos all]
  cases rest with
  | nil =>
      simp
  | cons character rest =>
      simp [stops character rfl]

namespace Json

/-- Whether a document is read from a text as a value. -/
def Represents (document : Document) (value : Json) : Prop :=
  ofDocument? document = some value

end Json

namespace Json.Reader

/-! ## Single characters -/

/-- Four hexadecimal digits stand for the code of the control character written with them. -/
theorem codeUnit?_control
    {code : Nat}
    (control : code < 0x20) :
    codeUnit? '0' '0' (Nat.digitChar (code / 16)) (Nat.digitChar (code % 16)) = some code := by
  interval_cases code <;> rfl

/-- A code unit that is no half of a pair stands for a character of its own. -/
theorem joinPieces_unit
    {code : Nat}
    {pieces : List Piece}
    (small : code < 0x20) :
    joinPieces (.unit code :: pieces) = (joinPieces pieces).map (Char.ofNat code :: ·) := by
  have notLeading : isLeading code = false := by
    simp [isLeading]
    omega
  have notTrailing : isTrailing code = false := by
    simp [isTrailing]
    omega
  cases pieces with
  | nil =>
      simp [joinPieces, notLeading, notTrailing]
  | cons next pieces =>
      cases next <;> simp [joinPieces, notLeading, notTrailing]

/-- A character that is no mark and no control stands for itself. -/
theorem scanPieces_plain
    {character : Char}
    {count : Nat}
    {rest : List Char}
    (noMark : character ≠ '"')
    (noEscape : character ≠ '\\')
    (noControl : ¬ character.toNat < 0x20) :
    scanPieces count (character :: rest) =
      (scanPieces (count + 1) rest).map
        fun (pieces, total) => (.char character :: pieces, total) := by
  rw [scanPieces, if_neg (not_or.mpr ⟨noControl, noEscape⟩)]
  · exact noMark
  · exact fun _ _ _ _ _ escapes _ => noEscape escapes
  · exact fun _ _ escapes _ => noEscape escapes

/-- A written character is read as one piece, which stands for the character. -/
theorem scanPieces_escapeChar
    (character : Char)
    (count : Nat)
    (rest : List Char) :
    ∃ piece,
      (∀ pieces, joinPieces (piece :: pieces) = (joinPieces pieces).map (character :: ·)) ∧
      scanPieces count (escapeChar character ++ rest) =
        (scanPieces (count + (escapeChar character).length) rest).map
          fun (pieces, total) => (piece :: pieces, total) := by
  unfold escapeChar
  split
  iterate 7 exact ⟨.char _, fun _ => by rw [joinPieces], by simp [scanPieces, shortEscape?]⟩
  case h_8 noMark noEscape _ _ _ _ _ =>
    split
    next control =>
      refine ⟨.unit character.toNat, fun pieces => ?_, ?_⟩
      · rw [joinPieces_unit control, Char.ofNat_toNat]
      · simp [controlEscape, scanPieces, codeUnit?_control control]
    next noControl =>
      exact
        ⟨.char character, fun _ => by rw [joinPieces], scanPieces_plain noMark noEscape noControl⟩

/-! ## Whole texts -/

/-- The pieces of a written text stand for its characters, and take up all of it. -/
theorem scanPieces_text
    (characters : List Char)
    (count : Nat)
    (rest : List Char) :
    ∃ pieces,
      joinPieces pieces = some characters ∧
      scanPieces count (characters.flatMap escapeChar ++ '"' :: rest) =
        some (pieces, count + (characters.flatMap escapeChar).length + 1) := by
  induction characters generalizing count with
  | nil =>
      exact ⟨[], rfl, by simp [scanPieces]⟩
  | cons character characters inductionHypothesis =>
      obtain ⟨piece, joins, scans⟩ :=
        scanPieces_escapeChar character count (characters.flatMap escapeChar ++ '"' :: rest)
      obtain ⟨pieces, joined, scanned⟩ :=
        inductionHypothesis (count + (escapeChar character).length)
      refine ⟨piece :: pieces, ?_, ?_⟩
      · rw [joins, joined, Option.map_some]
      · rw [List.flatMap_cons, List.append_assoc, scans, scanned]
        simp [Nat.add_assoc]

/-- A scan has read what represents a value, and leaves the rest of the text. -/
structure Reads
    {Read Value : Type}
    (represents : Read → Value → Prop)
    (scan : Scan Read)
    (value : Value)
    (rest : List Char) : Prop where
  whole : scan.broken = false
  value : represents scan.value value
  rest : scan.cursor.rest = rest

/-- A written text is read back, whatever follows it. -/
theorem reads_scanText
    {cursor : Cursor}
    {text : String}
    {rest : List Char}
    (written : cursor.rest = (writeText text).toList ++ rest) :
    Reads Represents (scanText cursor) (.string text) rest := by
  obtain ⟨pieces, joined, scanned⟩ := scanPieces_text text.toList 1 rest
  rw [writeText, String.toList_ofList] at written
  have opened : cursor.rest.drop 1 = text.toList.flatMap escapeChar ++ '"' :: rest := by
    simp [written]
  have scan :
      scanText cursor =
        { value := .string cursor.place text
          cursor := cursor.advance (1 + (text.toList.flatMap escapeChar).length + 1)
          broken := false } := by
    simp only [scanText, opened, scanned, joined, String.ofList_toList]
  rw [scan]
  refine ⟨rfl, by rw [Represents, ofDocument?], ?_⟩
  exact Cursor.rest_advance written (by simp [Nat.add_comm 1])

end Json.Reader

end SchemaScript
