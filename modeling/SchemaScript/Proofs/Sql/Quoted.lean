import SchemaScript.Dialect

/-!
# Reading quoted texts

Names and literals stand between two marks.  A reader takes a doubled mark for
one mark of the text, and ends the text at the first single one.  Where it
knows escapes, a backslash and the character after it stand for another
character.  A text in which marks were doubled is read as it was, unless the
reader takes a backslash of it for an escape.
-/

namespace SchemaScript

namespace Sql

open Database

/-! ## The reader -/

/-- What a backslash and the character after it stand for, where there are escapes. -/
def escaped : Char → List Char
  | '0' => ['\x00']
  | 'b' => ['\x08']
  | 'n' => ['\n']
  | 'r' => ['\r']
  | 't' => ['\t']
  | 'Z' => ['\x1a']
  -- these two are escapes of patterns, so that the backslash stays in the text
  | '%' => ['\\', '%']
  | '_' => ['\\', '_']
  | other => [other]

/-- Puts characters in front of a text that was read. -/
def preceded (characters : List Char) :
    Option (List Char × List Char) → Option (List Char × List Char)
  | some (text, rest) => some (characters ++ text, rest)
  | none => none

/-- Reads up to the mark that ends a text: the text, and what follows the mark. -/
def readToMark (mark : Char) (escapes : Bool) : List Char → Option (List Char × List Char)
  | [] => none
  | [last] => if last = mark then some ([], []) else none
  | first :: second :: rest =>
      if first = mark then
        if second = mark then
          preceded [mark] (readToMark mark escapes rest)
        else
          some ([], second :: rest)
      else if escapes = true ∧ first = '\\' then
        preceded (escaped second) (readToMark mark escapes rest)
      else
        preceded [first] (readToMark mark escapes (second :: rest))

/-- Reads a quoted text at the front of another text: the text, and what follows it. -/
def readQuoted (mark : Char) (escapes : Bool) : List Char → Option (String × List Char)
  | [] => none
  | first :: rest =>
      if first = mark then
        (readToMark mark escapes rest).map fun (text, after) => (String.ofList text, after)
      else
        none

variable {mark : Char} {escapes : Bool} {rest : List Char}

/-! ## Steps of the reader -/

/-- Characters are put before what was read, or nothing was. -/
theorem preceded_eq_some_iff
    {characters text : List Char}
    {read : Option (List Char × List Char)} :
    preceded characters read = some (text, rest) ↔
      ∃ later, read = some (later, rest) ∧ characters ++ later = text := by
  cases read with
  | none =>
      simp [preceded]
  | some result =>
      obtain ⟨later, after⟩ := result
      simp only [preceded, Option.some.injEq, Prod.mk.injEq]
      constructor
      · rintro ⟨same, rfl⟩
        exact ⟨later, ⟨rfl, rfl⟩, same⟩
      · rintro ⟨_, ⟨rfl, rfl⟩, same⟩
        exact ⟨same, rfl⟩

/-- Characters are put before a text one by one. -/
theorem preceded_cons
    {first : Char}
    {later : List Char}
    {read : Option (List Char × List Char)} :
    preceded (first :: later) read = preceded [first] (preceded later read) := by
  cases read <;> rfl

/-- A single mark ends a quoted text. -/
theorem readToMark_end
    (ends : rest.head? ≠ some mark) :
    readToMark mark escapes (mark :: rest) = some ([], rest) := by
  cases rest with
  | nil =>
      simp [readToMark]
  | cons first later =>
      have other : first ≠ mark := fun same => ends (congrArg some same)
      simp [readToMark, other]

/-- Two marks are read as one character. -/
theorem readToMark_doubled :
    readToMark mark escapes (mark :: mark :: rest) =
      preceded [mark] (readToMark mark escapes rest) := by
  simp [readToMark]

/-- Any other character is read as itself. -/
theorem readToMark_plain
    {character : Char}
    (other : character ≠ mark)
    (plain : ¬ (escapes = true ∧ character = '\\')) :
    readToMark mark escapes (character :: rest) =
      preceded [character] (readToMark mark escapes rest) := by
  cases rest with
  | nil =>
      simp [readToMark, other, preceded]
  | cons first later =>
      simp [readToMark, other, plain]

/-- A backslash and the character after it are read together. -/
theorem readToMark_escape
    {character : Char}
    (other : mark ≠ '\\') :
    readToMark mark true ('\\' :: character :: rest) =
      preceded (escaped character) (readToMark mark true rest) := by
  simp [readToMark, other.symm]

/-- A text ends before what follows it. -/
theorem length_lt_of_readToMark
    {input text : List Char}
    (read : readToMark mark escapes input = some (text, rest)) :
    rest.length < input.length := by
  fun_induction readToMark mark escapes input generalizing text with
  | case1 =>
      cases read
  | case2 =>
      cases read
      exact Nat.zero_lt_one
  | case3 =>
      cases read
  | case4 rest inductionHypothesis =>
      obtain ⟨_, laterRead, _⟩ := preceded_eq_some_iff.mp read
      have := inductionHypothesis laterRead
      simp only [List.length_cons]
      omega
  | case5 =>
      cases read
      simp
  | case6 first second rest _ _ inductionHypothesis =>
      obtain ⟨_, laterRead, _⟩ := preceded_eq_some_iff.mp read
      have := inductionHypothesis laterRead
      simp only [List.length_cons]
      omega
  | case7 first second rest _ _ inductionHypothesis =>
      obtain ⟨_, laterRead, _⟩ := preceded_eq_some_iff.mp read
      have := inductionHypothesis laterRead
      simp only [List.length_cons] at this ⊢
      omega

/-! ## Texts with doubled marks -/

variable {text : List Char} {character : Char}

theorem readToMark_doubleChar_nil
    (ends : rest.head? ≠ some mark) :
    readToMark mark escapes (doubleChar mark [] ++ mark :: rest) = some ([], rest) :=
  readToMark_end ends

/-- A character that begins no escape is read as itself, whether it was doubled or not. -/
theorem readToMark_doubleChar_cons
    (plain : ¬ (escapes = true ∧ character = '\\')) :
    readToMark mark escapes (doubleChar mark (character :: text) ++ rest) =
      preceded [character] (readToMark mark escapes (doubleChar mark text ++ rest)) := by
  by_cases isMark : character = mark
  · subst isMark
    simp [doubleChar, readToMark_doubled]
  · simp [doubleChar, isMark, readToMark_plain isMark plain]

/-- Where there are no escapes, a text with doubled marks is read as it was. -/
theorem readToMark_doubleChar
    (ends : rest.head? ≠ some mark) :
    readToMark mark false (doubleChar mark text ++ mark :: rest) = some (text, rest) := by
  induction text with
  | nil =>
      exact readToMark_doubleChar_nil ends
  | cons character later inductionHypothesis =>
      rw [readToMark_doubleChar_cons (by simp), inductionHypothesis]
      rfl

end Sql

/-! ## Names and literals of databases -/

namespace Database

/-- Whether a backslash in a literal begins an escape. -/
def hasEscapes : Database → Bool
  | .mySQL => true
  | _ => false

/-- Reads a quoted name at the front of a text. -/
def readName (database : Database) (text : List Char) : Option (String × List Char) :=
  Sql.readQuoted database.quoteMark false text

/-- Reads a text literal at the front of a text. -/
def readLiteral (database : Database) (text : List Char) : Option (String × List Char) :=
  Sql.readQuoted '\'' database.hasEscapes text

end Database

end SchemaScript
