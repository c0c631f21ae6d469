import SchemaScript.Text.Letter
import SchemaScript.Text.Case

namespace SchemaScript.Text

/-!
# Snake case

Names of tables and columns are derived from the names of entities and
fields.  A name is cut into words at every character that is neither a letter
nor a number and at changes of case, and its words are written in lower case
with underscores between them.
-/

/-- The case of the characters read so far in a word. -/
inductive WordCase where
  | unknown
  | lower
  | upper
  deriving DecidableEq, Repr

namespace WordCase

/-- The case of a word after one more character: characters without case leave it as it is. -/
def after (wordCase : WordCase) (character : Char) : WordCase :=
  if isLowercase character then
    .lower
  else if isUppercase character then
    .upper
  else
    wordCase

end WordCase

/--
The words of a run of letters and numbers.  A word ends before an upper-case
character that follows lower case, and before the last of several upper-case
characters when lower case follows it.  `word` holds the characters of the
word under way, last one first.
-/
def caseWords
    (wordCase : WordCase)
    (word : List Char) :
    List Char → List (List Char)
  | [] => if word.isEmpty then [] else [word.reverse]
  | [character] => [(character :: word).reverse]
  | character :: next :: rest =>
      if wordCase.after character = .lower ∧ isUppercase next then
        (character :: word).reverse :: caseWords .unknown [] (next :: rest)
      else if
          wordCase = .upper ∧ isUppercase character ∧ isLowercase next then
        word.reverse :: caseWords .unknown [character] (next :: rest)
      else
        caseWords (wordCase.after character) (character :: word) (next :: rest)

/-- The words of a name, in order. -/
def words (name : String) : List (List Char) :=
  (name.toList.splitOnP fun character => !isAlphanumeric character).flatMap
    (caseWords .unknown [])

/-- A word in lower case.  A capital sigma at its end becomes a final sigma. -/
def lowerWord : List Char → List Char
  | [] => []
  | [character] => if character = 'Σ' then ['ς'] else lowerChar character
  | character :: next :: rest =>
      lowerChar character ++ lowerWord (next :: rest)

/-- The words of a name in lower case, with underscores between them. -/
def snakeCase (name : String) : String :=
  "_".intercalate ((words name).map fun word => String.ofList (lowerWord word))

end SchemaScript.Text
