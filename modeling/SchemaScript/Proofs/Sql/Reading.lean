import Mathlib.Data.List.TakeWhile
import SchemaScript.Sql.Statement

namespace SchemaScript.Sql

/-!
# Reading statements

A reader of scripts ends a statement at a semicolon, unless it stands in a
name, in a text literal or in a comment.  Marks in names and literals are
doubled, and a comment ends at the first star that a slash follows.  A text is
neutral when it leads such a reader from between two words to between two words
and ends no statement; what is written between neutral texts does not matter to
them.
-/

/-! ## The reader -/

/-- Where the reader of a script stands. -/
inductive Place where
  | outside
  /-- After a slash, which opens a comment if a star follows. -/
  | afterSlash
  | inName
  /-- After a mark in a name, which ends the name unless another mark follows. -/
  | afterNameMark
  | inLiteral
  /-- After a mark in a literal, which ends the literal unless another mark follows. -/
  | afterLiteralMark
  | inComment
  /-- After a star in a comment, which ends the comment if a slash follows. -/
  | afterStar
  deriving DecidableEq, Repr

namespace Place

/-- Where a character leads that is in no name, no literal and no comment. -/
def entered (character : Char) : Place :=
  if character = '"' then .inName
  else if character = '\'' then .inLiteral
  else if character = '/' then .afterSlash
  else .outside

/-- Where a character leads. -/
def next : Place → Char → Place
  | .outside, character => entered character
  | .afterSlash, character => if character = '*' then .inComment else entered character
  | .inName, character => if character = '"' then .afterNameMark else .inName
  | .afterNameMark, character => if character = '"' then .inName else entered character
  | .inLiteral, character => if character = '\'' then .afterLiteralMark else .inLiteral
  | .afterLiteralMark, character => if character = '\'' then .inLiteral else entered character
  | .inComment, character => if character = '*' then .afterStar else .inComment
  | .afterStar, character =>
      if character = '/' then .outside
      else if character = '*' then .afterStar
      else .inComment

/-- Whether a semicolon ends a statement here. -/
def endsStatements : Place → Bool
  | .outside => true
  | .afterSlash => true
  | .afterNameMark => true
  | .afterLiteralMark => true
  | _ => false

/-- Whether a name, a literal or a comment may begin or have ended here. -/
def isSettled : Place → Bool
  | .outside => true
  | .afterNameMark => true
  | .afterLiteralMark => true
  | _ => false

/-- Outside of quoted text a character leads where it leads on its own. -/
theorem next_of_isSettled
    {place : Place}
    (settled : place.isSettled = true)
    (character : Char) :
    place.next character = entered character := by
  cases place with
  | outside =>
      rfl
  | afterNameMark =>
      by_cases isMark : character = '"' <;> simp [next, entered, isMark]
  | afterLiteralMark =>
      by_cases isMark : character = '\'' <;> simp [next, entered, isMark]
  | afterSlash => cases settled
  | inName => cases settled
  | inLiteral => cases settled
  | inComment => cases settled
  | afterStar => cases settled

/-- Outside of quoted text a semicolon ends a statement. -/
theorem endsStatements_of_isSettled
    {place : Place}
    (settled : place.isSettled = true) :
    place.endsStatements = true := by
  cases place <;> first | rfl | cases settled

end Place

/--
The pieces of a text, each with the semicolon that ends it, and what is left
at the end; `piece` is what was read of the first one before.
-/
def cutPieces (place : Place) (piece : List Char) : List Char → List (List Char)
  | [] => [piece]
  | character :: rest =>
      if character = ';' ∧ place.endsStatements = true then
        (piece ++ [character]) :: cutPieces .outside [] rest
      else
        cutPieces (place.next character) (piece ++ [character]) rest

/-- The pieces without the blanks in front of them; what is blank altogether is left out. -/
def trimPieces (pieces : List (List Char)) : List String :=
  (pieces.map fun piece => String.ofList (piece.dropWhile Char.isWhitespace)).filter (· ≠ "")

/-- The statements of a script. -/
def splitStatements (script : String) : List String :=
  trimPieces (cutPieces .outside [] script.toList)

/-- Where a text leads, unless a statement ends in it. -/
def pass? (place : Place) : List Char → Option Place
  | [] => some place
  | character :: rest =>
      if character = ';' ∧ place.endsStatements = true then
        none
      else
        pass? (place.next character) rest

/-- Two texts are passed one after the other. -/
theorem pass?_append
    {place : Place}
    {first second : List Char} :
    pass? place (first ++ second) =
      (pass? place first).bind fun middle => pass? middle second := by
  induction first generalizing place with
  | nil =>
      rfl
  | cons character rest inductionHypothesis =>
      simp only [List.cons_append, pass?]
      split
      · rfl
      · exact inductionHypothesis

/-- A text in which no statement ends is read into the present piece. -/
theorem cutPieces_of_pass?
    {place last : Place}
    {piece text rest : List Char}
    (passed : pass? place text = some last) :
    cutPieces place piece (text ++ rest) = cutPieces last (piece ++ text) rest := by
  induction text generalizing place piece with
  | nil =>
      cases passed
      simp
  | cons character later inductionHypothesis =>
      simp only [pass?] at passed
      split at passed
      · cases passed
      · next stays =>
          simp only [List.cons_append, cutPieces, stays, if_false]
          rw [inductionHypothesis passed]
          simp

/-! ## Neutral texts -/

/-- A text leads from between words to between words, and no statement ends in it. -/
def Neutral (text : String) : Prop :=
  ∀ place : Place, place.isSettled = true →
    ∃ last : Place, pass? place text.toList = some last ∧ last.isSettled = true

theorem Neutral.append
    {first second : String}
    (firstNeutral : Neutral first)
    (secondNeutral : Neutral second) :
    Neutral (first ++ second) := by
  intro place settled
  obtain ⟨middle, firstPassed, middleSettled⟩ := firstNeutral place settled
  obtain ⟨last, secondPassed, lastSettled⟩ := secondNeutral middle middleSettled
  refine ⟨last, ?_, lastSettled⟩
  rw [String.toList_append, pass?_append, firstPassed]
  exact secondPassed

theorem neutral_empty : Neutral "" :=
  fun place settled => ⟨place, rfl, settled⟩

/-- Neutral texts stay so when joined by a neutral separator. -/
theorem neutral_intercalate
    {separator : String}
    {texts : List String}
    (separatorNeutral : Neutral separator)
    (textsNeutral : ∀ text ∈ texts, Neutral text) :
    Neutral (separator.intercalate texts) := by
  induction texts with
  | nil =>
      rw [String.intercalate_nil]
      exact neutral_empty
  | cons first later inductionHypothesis =>
      have firstNeutral : Neutral first := textsNeutral first List.mem_cons_self
      by_cases last : later = []
      · subst last
        rwa [String.intercalate_singleton]
      · rw [String.intercalate_cons_of_ne_nil last]
        apply (firstNeutral.append separatorNeutral).append
        apply inductionHypothesis
        intro text member
        exact textsNeutral text (List.mem_cons_of_mem first member)

/-- Characters that open nothing and end nothing. -/
def isPlain (character : Char) : Bool :=
  character ≠ '"' && character ≠ '\'' && character ≠ '/' && character ≠ ';'

/-- A text of plain characters is neutral. -/
theorem neutral_of_isPlain
    {text : String}
    (plain : ∀ character ∈ text.toList, isPlain character = true) :
    Neutral text := by
  have passed
      (characters : List Char)
      (allPlain : ∀ character ∈ characters, isPlain character = true)
      (place : Place)
      (settled : place.isSettled = true) :
      ∃ last : Place, pass? place characters = some last ∧ last.isSettled = true := by
    induction characters generalizing place with
    | nil =>
        exact ⟨place, rfl, settled⟩
    | cons character rest inductionHypothesis =>
        have characterPlain := allPlain character List.mem_cons_self
        simp only [isPlain, ne_eq, decide_not, Bool.and_eq_true, Bool.not_eq_eq_eq_not,
          Bool.not_true, decide_eq_false_iff_not] at characterPlain
        obtain ⟨⟨⟨notNameMark, notLiteralMark⟩, notSlash⟩, notEnd⟩ := characterPlain
        have leads : place.next character = .outside := by
          rw [Place.next_of_isSettled settled]
          simp [Place.entered, notNameMark, notLiteralMark, notSlash]
        simp only [pass?, notEnd, false_and, if_false, leads]
        apply inductionHypothesis
        · intro other member
          exact allPlain other (List.mem_cons_of_mem character member)
        · rfl
  exact passed text.toList plain

/-! ## Statements one after another -/

/-- A text is a statement: nothing before the semicolon at its end ends it. -/
structure IsStatement (text : String) : Prop where
  opened : ∃ first rest, text.toList = first :: rest ∧ first.isWhitespace = false
  closed : ∃ inside, Neutral inside ∧ text = inside ++ ";"

/-- A statement is cut off whole. -/
theorem cutPieces_statement
    {text : String}
    (statement : IsStatement text)
    {piece rest : List Char} :
    cutPieces .outside piece (text.toList ++ rest) =
      (piece ++ text.toList) :: cutPieces .outside [] rest := by
  obtain ⟨inside, neutral, same⟩ := statement.closed
  obtain ⟨last, passed, settled⟩ := neutral .outside rfl
  have ends : last.endsStatements = true := Place.endsStatements_of_isSettled settled
  have characters : text.toList = inside.toList ++ [';'] := by
    rw [same, String.toList_append]
    rfl
  rw [characters, List.append_assoc, cutPieces_of_pass? passed]
  simp [cutPieces, ends]

/-- A statement is kept without the blanks before it. -/
theorem trimPieces_statement
    {text : String}
    (statement : IsStatement text)
    {blank : List Char}
    (allBlank : ∀ character ∈ blank, character.isWhitespace = true)
    {pieces : List (List Char)} :
    trimPieces ((blank ++ text.toList) :: pieces) = text :: trimPieces pieces := by
  obtain ⟨first, rest, characters, notBlank⟩ := statement.opened
  have trimmed : (blank ++ text.toList).dropWhile Char.isWhitespace = text.toList := by
    rw [List.dropWhile_append_of_pos allBlank, characters]
    simp [notBlank]
  have notEmpty : text ≠ "" := by
    intro empty
    rw [empty] at characters
    cases characters
  simp [trimPieces, trimmed, notEmpty]

/-- A script of statements on lines of their own is split into these statements. -/
theorem splitStatements_intercalate
    {texts : List String}
    (statements : ∀ text ∈ texts, IsStatement text) :
    splitStatements ("\n".intercalate texts) = texts := by
  have split
      (blank : List Char)
      (allBlank : ∀ character ∈ blank, character.isWhitespace = true) :
      trimPieces (cutPieces .outside blank ("\n".intercalate texts).toList) = texts := by
    induction texts generalizing blank with
    | nil =>
        have nothing : blank.dropWhile Char.isWhitespace = [] :=
          List.dropWhile_eq_nil_iff.mpr allBlank
        simp [trimPieces, cutPieces, nothing]
    | cons first later inductionHypothesis =>
        have statement : IsStatement first := statements first List.mem_cons_self
        by_cases last : later = []
        · subst last
          rw [String.intercalate_singleton, ← List.append_nil first.toList,
            cutPieces_statement statement, trimPieces_statement statement allBlank]
          rfl
        · rw [String.intercalate_cons_of_ne_nil last, String.toList_append,
            String.toList_append, List.append_assoc, cutPieces_statement statement,
            trimPieces_statement statement allBlank]
          have laterStatements : ∀ text ∈ later, IsStatement text :=
            fun text member => statements text (List.mem_cons_of_mem first member)
          have rest := inductionHypothesis laterStatements ['\n'] (by simp)
          exact congrArg (first :: ·) rest
  exact split [] (by simp)

example :
    splitStatements "SELECT ';', \"a\"\";\" /* ; */;\nSELECT 1;" =
      ["SELECT ';', \"a\"\";\" /* ; */;", "SELECT 1;"] := by
  cbv

end SchemaScript.Sql
