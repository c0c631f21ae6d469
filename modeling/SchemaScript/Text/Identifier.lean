import SchemaScript.Text.Letter

namespace SchemaScript.Text

/-!
# Identifiers

What the names of entities and fields have to look like.
-/

/-- Whether a character can begin an identifier: letters and the underscore. -/
def beginsIdentifier (character : Char) : Bool :=
  isAlphabetic character || character = '_'

/-- Whether a character can go on with an identifier: letters, numbers and the underscore. -/
def continuesIdentifier (character : Char) : Bool :=
  isAlphanumeric character || character = '_'

/-- Whether a name is an identifier. -/
def isIdentifier (name : String) : Bool :=
  match name.toList with
  | [] => false
  | first :: rest => beginsIdentifier first && rest.all continuesIdentifier

end SchemaScript.Text
