import SchemaScript.Sql.Comment
import SchemaScript.Sql.Statement
import SchemaScript.Proofs.Dialect
import SchemaScript.Proofs.Sql.Reading

/-!
# Writing statements

Names between marks, literals and comments are neutral whatever they hold, and
so are the words that databases add to them.  A statement is therefore read as
one statement, as long as the texts that it takes over as they are, such as
those of types and defaults, are neutral themselves.
-/

namespace SchemaScript.Sql

open Database

/-! ## Marks -/

/-- What stands between two marks is read as a whole, with marks inside it doubled. -/
structure Place.Encloses (mark : Char) (inside after : Place) : Prop where
  opens : entered mark = inside
  leads : ∀ character, inside.next character = if character = mark then after else inside
  returns : after.next mark = inside
  insideEnds : inside.endsStatements = false
  afterSettled : after.isSettled = true
  notEnd : mark ≠ ';'

namespace Place

/-- Quotation marks enclose names. -/
theorem encloses_name : Encloses '"' .inName .afterNameMark where
  opens := rfl
  leads := fun _ => rfl
  returns := rfl
  insideEnds := rfl
  afterSettled := rfl
  notEnd := by decide

/-- Apostrophes enclose literals. -/
theorem encloses_literal : Encloses '\'' .inLiteral .afterLiteralMark where
  opens := rfl
  leads := fun _ => rfl
  returns := rfl
  insideEnds := rfl
  afterSettled := rfl
  notEnd := by decide

namespace Encloses

variable {mark : Char} {inside after : Place}

/-- A text with doubled marks does not lead out of the marks around it. -/
theorem pass?_doubleChar
    (encloses : Encloses mark inside after)
    {text : List Char} :
    pass? inside (doubleChar mark text) = some inside := by
  induction text with
  | nil =>
      rfl
  | cons character rest inductionHypothesis =>
      by_cases isMark : character = mark
      · have doubled : doubleChar mark (character :: rest) =
            mark :: mark :: doubleChar mark rest := by
          simp [doubleChar, isMark]
        rw [doubled]
        simp [pass?, encloses.notEnd, encloses.leads, encloses.returns, inductionHypothesis]
      · have kept : doubleChar mark (character :: rest) =
            character :: doubleChar mark rest := by
          simp [doubleChar, isMark]
        rw [kept]
        simp [pass?, encloses.insideEnds, encloses.leads, isMark, inductionHypothesis]

/-- A text between marks is neutral if the marks in it are doubled. -/
theorem neutral
    (encloses : Encloses mark inside after)
    {text : List Char} :
    Neutral (String.ofList (mark :: doubleChar mark text ++ [mark])) := by
  intro place settled
  refine ⟨after, ?_, encloses.afterSettled⟩
  have opens : place.next mark = inside :=
    (next_of_isSettled settled mark).trans encloses.opens
  rw [String.toList_ofList, List.cons_append]
  simp only [pass?, encloses.notEnd, false_and, if_false, opens, pass?_append,
    encloses.pass?_doubleChar, Option.bind_some, encloses.leads, if_true]

end Encloses

end Place

/-- A quoted name is passed over as a whole by all databases but MySQL. -/
theorem neutral_quote
    {database : Database}
    (notMySQL : database ≠ .mySQL)
    {name : String} :
    Neutral (database.quote name) := by
  have mark : database.quoteMark = '"' := by
    cases database with
    | mySQL => contradiction
    | postgreSQL => rfl
    | sqlite => rfl
  rw [quote, mark]
  exact Place.encloses_name.neutral

/-- A literal whose apostrophes are doubled is passed over as a whole. -/
theorem neutral_literal
    {text : String} :
    Neutral ("'" ++ escapeLiteral text ++ "'") := by
  have characters :
      "'" ++ escapeLiteral text ++ "'" =
        String.ofList ('\'' :: doubleChar '\'' text.toList ++ ['\'']) := by
    apply String.toList_injective
    simp [escapeLiteral]
  rw [characters]
  exact Place.encloses_literal.neutral

/-! ## Comments -/

/-- The reader is in a comment that the text after it does not end at once. -/
def Place.HoldsComment (place : Place) (text : List Char) : Prop :=
  place = .inComment ∨ place = .afterStar ∧ text.head? ≠ some '/'

namespace Place.HoldsComment

/-- No statement ends within a comment. -/
theorem endsStatements_eq_false
    {place : Place}
    {text : List Char}
    (holds : place.HoldsComment text) :
    place.endsStatements = false := by
  rcases holds with inside | ⟨atStar, _⟩
  · rw [inside]
    rfl
  · rw [atStar]
    rfl

/-- A character of a comment leaves the reader in it, unless it begins the comment's end. -/
theorem next
    {place : Place}
    {character : Char}
    {rest : List Char}
    (holds : place.HoldsComment (character :: rest))
    (noEnd : ∀ later, character = '*' → rest = '/' :: later → False) :
    (place.next character).HoldsComment rest := by
  by_cases isStar : character = '*'
  · right
    constructor
    · rcases holds with inside | ⟨atStar, _⟩
      · simp [inside, Place.next, isStar]
      · simp [atStar, Place.next, isStar]
    · intro slashFollows
      obtain ⟨later, shape⟩ := List.head?_eq_some_iff.mp slashFollows
      exact noEnd later isStar shape
  · left
    rcases holds with inside | ⟨atStar, noSlash⟩
    · simp [inside, Place.next, isStar]
    · have notSlash : character ≠ '/' := by
        simpa using noSlash
      simp [atStar, Place.next, isStar, notSlash]

end Place.HoldsComment

/-- A comment's text does not lead out of the comment. -/
theorem pass?_openBlockEnds
    {place : Place}
    {text : List Char}
    (holds : place.HoldsComment text) :
    ∃ last, pass? place (openBlockEnds text) = some last ∧ last.HoldsComment [] := by
  induction text using openBlockEnds.induct generalizing place with
  | case1 rest inductionHypothesis =>
      obtain ⟨last, passed, lastHolds⟩ := inductionHypothesis (Or.inl rfl)
      refine ⟨last, ?_, lastHolds⟩
      rcases holds with inside | ⟨atStar, _⟩
      · simpa [inside, openBlockEnds, pass?, Place.next] using passed
      · simpa [atStar, openBlockEnds, pass?, Place.next] using passed
  | case2 character rest noEnd inductionHypothesis =>
      have kept : openBlockEnds (character :: rest) = character :: openBlockEnds rest := by
        rw [openBlockEnds]
        exact noEnd
      obtain ⟨last, passed, lastHolds⟩ := inductionHypothesis (holds.next noEnd)
      refine ⟨last, ?_, lastHolds⟩
      rw [kept]
      simpa [pass?, holds.endsStatements_eq_false] using passed
  | case3 =>
      exact ⟨place, rfl, holds⟩

/-- A comment in a block is closed where it ends and nowhere before. -/
theorem neutral_blockFragment
    {database : Database}
    (blocks : database.commentStyle = .block)
    {text : String} :
    Neutral (CommentQueue.blockFragment database text) := by
  intro place settled
  obtain ⟨last, passed, lastHolds⟩ :=
    @pass?_openBlockEnds .inComment (escapeLiteral text).toList (Or.inl rfl)
  refine ⟨.outside, ?_, rfl⟩
  have opens : pass? place " /* ".toList = some .inComment := by
    cases place <;> first | rfl | cases settled
  have closes : pass? last " */".toList = some .outside := by
    rcases lastHolds with inside | ⟨atStar, _⟩
    · rw [inside]
      rfl
    · rw [atStar]
      rfl
  have characters :
      (CommentQueue.blockFragment database text).toList =
        " /* ".toList ++ (openBlockEnds (escapeLiteral text).toList ++ " */".toList) := by
    simp [CommentQueue.blockFragment, escapeComment, blocks]
  rw [characters, pass?_append, opens, Option.bind_some, pass?_append, passed]
  exact closes

/-! ## Words of databases -/

/-- A text without marks, slashes and semicolons. -/
def PlainText (text : String) : Prop :=
  ∀ character ∈ text.toList, isPlain character = true

namespace PlainText

theorem neutral
    {text : String}
    (plain : PlainText text) :
    Neutral text :=
  neutral_of_isPlain plain

theorem append
    {first second : String}
    (firstPlain : PlainText first)
    (secondPlain : PlainText second) :
    PlainText (first ++ second) := by
  intro character member
  rw [String.toList_append, List.mem_append] at member
  rcases member with inFirst | inSecond
  · exact firstPlain character inFirst
  · exact secondPlain character inSecond

end PlainText

/-- Whether a text is plain can be told by looking at its characters. -/
theorem plainText_word
    {text : String}
    (plain : text.toList.all isPlain = true) :
    PlainText text :=
  List.all_eq_true.mp plain

/-- Letters, digits and signs of no meaning are passed over. -/
theorem neutral_word
    {text : String}
    (plain : text.toList.all isPlain = true) :
    Neutral text :=
  (plainText_word plain).neutral

theorem isPlain_of_isDigit
    {character : Char}
    (isDigit : character.isDigit = true) :
    isPlain character = true := by
  simp only [isPlain, ne_eq, decide_not, Bool.and_eq_true, Bool.not_eq_eq_eq_not, Bool.not_true,
    decide_eq_false_iff_not]
  refine ⟨⟨⟨?_, ?_⟩, ?_⟩, ?_⟩ <;> rintro rfl <;> revert isDigit <;> decide

/-- Numbers are written in plain characters. -/
theorem isPlain_of_mem_toDigits
    {number : Nat}
    {character : Char}
    (member : character ∈ Nat.toDigits 10 number) :
    isPlain character = true :=
  isPlain_of_isDigit (Nat.isDigit_of_mem_toDigits (by decide) (by decide) member)

/-- A number is plain text. -/
theorem plainText_toString
    {number : Nat} :
    PlainText (toString number) := by
  intro character member
  rw [Nat.toString_eq_ofList_toDigits, String.toList_ofList] at member
  exact isPlain_of_mem_toDigits member

theorem plainText_sized
    {name : String}
    (namePlain : PlainText name)
    {size : Nat} :
    PlainText (sized name size) :=
  ((namePlain.append (plainText_word rfl)).append plainText_toString).append
    (plainText_word rfl)

theorem plainText_decimalType
    {digits places : UInt32} :
    PlainText (decimalType digits places) :=
  ((((plainText_word rfl).append plainText_toString).append (plainText_word rfl)).append
    plainText_toString).append (plainText_word rfl)

/-- The names of types are plain text. -/
theorem plainText_of_typeName
    {name : String}
    (built : TypeName name) :
    PlainText name := by
  induction built with
  | plain listed =>
      have allPlain : ∀ name ∈ plainTypeNames, name.toList.all isPlain = true := by
        decide
      exact plainText_word (allPlain _ listed)
  | sized size =>
      exact plainText_sized (plainText_word rfl)
  | decimal digits places =>
      exact plainText_decimalType
  | array _ inductionHypothesis =>
      exact inductionHypothesis.append (plainText_word rfl)

/-- What a database says of generated keys is plain text. -/
theorem plainText_generatedKey
    {database : Database}
    {dataType : DataType}
    {clause : String}
    (generated : database.generatedKey? dataType = some clause) :
    PlainText clause := by
  have allPlain : ∀ clause ∈ generatedKeyClauses, clause.toList.all isPlain = true := by
    decide
  exact plainText_word (allPlain clause (mem_generatedKeyClauses generated))

/-! ## Parts of statements -/

section Parts

variable {database : Database} (notMySQL : database ≠ .mySQL)

include notMySQL

/-- The name of a table is passed over together with its namespace. -/
theorem neutral_quoteTable
    {id : TableId} :
    Neutral (database.quoteTable id) := by
  simp only [quoteTable]
  split
  · exact
      ((neutral_quote notMySQL).append (neutral_word rfl)).append
        (neutral_quote notMySQL)
  · exact neutral_quote notMySQL

/-- Names between commas are passed over. -/
theorem neutral_quoteList
    {names : List String} :
    Neutral (database.quoteList names) := by
  apply neutral_intercalate (neutral_word rfl)
  intro text member
  obtain ⟨_, _, rfl⟩ := List.mem_map.mp member
  exact neutral_quote notMySQL

/-- What a key refers to is passed over. -/
theorem neutral_references
    {key : ForeignKey} :
    Neutral (key.references database) := by
  have action : Neutral key.onDelete.sql := by
    cases key.onDelete <;> exact neutral_word rfl
  have table : Neutral ("REFERENCES " ++ database.quoteTable key.target) :=
    (neutral_word rfl).append (neutral_quoteTable notMySQL)
  have column :
      Neutral ("REFERENCES " ++ database.quoteTable key.target ++ " (" ++
        database.quote key.targetColumn) :=
    (table.append (neutral_word rfl)).append (neutral_quote notMySQL)
  exact (column.append (neutral_word rfl)).append action

/-- All databases but MySQL take keys in the lines of columns. -/
theorem inlineReferences_of_ne_mySQL : database.inlineReferences = true := by
  cases database with
  | mySQL => contradiction
  | postgreSQL => rfl
  | sqlite => rfl

/-- A key in the line of its column is passed over. -/
theorem neutral_inline
    {key : ForeignKey} :
    Neutral (key.inline database) := by
  rw [ForeignKey.inline, if_pos (inlineReferences_of_ne_mySQL notMySQL)]
  exact (neutral_word rfl).append (neutral_references notMySQL)

/-- The line of a unique constraint is passed over. -/
theorem neutral_uniqueLine
    {constraint : UniqueConstraint} :
    Neutral (constraint.line database) := by
  have name : Neutral ("CONSTRAINT " ++ database.quote constraint.name) :=
    (neutral_word rfl).append (neutral_quote notMySQL)
  have columns :
      Neutral ("CONSTRAINT " ++ database.quote constraint.name ++ " UNIQUE (" ++
        database.quoteList constraint.columns) :=
    (name.append (neutral_word rfl)).append (neutral_quoteList notMySQL)
  exact columns.append (neutral_word rfl)

end Parts

/-! ## Statements -/

/-- The texts that a column takes over as they are do not end a statement. -/
structure NeutralColumn (column : Column) : Prop where
  words : ∀ word ∈ column.body.words, Neutral word
  comment : Neutral column.comment

/-- The texts that a table takes over as they are do not end a statement. -/
structure NeutralTable (table : TableDefinition) : Prop where
  columns : ∀ column ∈ table.columns, NeutralColumn column
  comment : Neutral table.comment

/-- What a statement takes over as it is does not end it. -/
def NeutralStatement : Statement → Prop
  | .createTable table => NeutralTable table
  | .comment text => IsStatement text
  | .createNamespace _ => True
  | .createIndex _ => True

/-- A neutral text is a statement without its semicolon if it begins with a word. -/
structure BeginsStatement (text : String) : Prop where
  opened : ∃ first rest, text.toList = first :: rest ∧ first.isWhitespace = false
  neutral : Neutral text

namespace BeginsStatement

/-- What goes on after the beginning of a statement belongs to it. -/
theorem append
    {first second : String}
    (begins : BeginsStatement first)
    (secondNeutral : Neutral second) :
    BeginsStatement (first ++ second) := by
  obtain ⟨character, rest, characters, notBlank⟩ := begins.opened
  refine ⟨⟨character, rest ++ second.toList, ?_, notBlank⟩, begins.neutral.append secondNeutral⟩
  rw [String.toList_append, characters, List.cons_append]

/-- A semicolon ends a statement that has begun. -/
theorem isStatement
    {text : String}
    (begins : BeginsStatement text) :
    IsStatement (text ++ ";") := by
  obtain ⟨character, rest, characters, notBlank⟩ := begins.opened
  refine ⟨⟨character, rest ++ [';'], ?_, notBlank⟩, text, begins.neutral, rfl⟩
  rw [String.toList_append, characters, List.cons_append]
  rfl

/-- What closes a statement may stand in one text with its semicolon. -/
theorem isStatement_of_eq
    {text closing ending : String}
    (begins : BeginsStatement text)
    (closingNeutral : Neutral closing)
    (same : ending = closing ++ ";") :
    IsStatement (text ++ ending) := by
  rw [same, ← String.append_assoc]
  exact (begins.append closingNeutral).isStatement

end BeginsStatement

section Statements

variable {target : Target} (notMySQL : target.database ≠ .mySQL)

include notMySQL

/-- The line of a column is passed over when its type, default and comment are. -/
theorem neutral_columnLine
    {column : Column}
    (neutral : NeutralColumn column) :
    Neutral (column.line target.database) := by
  have definition :
      Neutral (" ".intercalate (target.database.quote column.name :: column.body.words)) := by
    apply neutral_intercalate (neutral_word rfl)
    intro text member
    rcases List.mem_cons.mp member with isName | isWord
    · subst isName
      exact neutral_quote notMySQL
    · exact neutral.words text isWord
  have clause : Neutral ((column.reference.map (·.inline target.database)).getD "") := by
    cases column.reference with
    | none => exact neutral_empty
    | some key => exact neutral_inline notMySQL
  exact (definition.append clause).append neutral.comment

/-- All lines of a table are passed over when those of its columns are. -/
theorem neutral_lines
    {table : TableDefinition}
    (neutral : NeutralTable table)
    {line : String}
    (member : line ∈ table.lines target.database) :
    Neutral line := by
  simp only [TableDefinition.lines, List.mem_append] at member
  rcases member with (isColumn | isUnique) | isKey
  · obtain ⟨column, columnMember, rfl⟩ := List.mem_map.mp isColumn
    exact neutral_columnLine notMySQL (neutral.columns column columnMember)
  · obtain ⟨constraint, _, rfl⟩ := List.mem_map.mp isUnique
    exact neutral_uniqueLine notMySQL
  · obtain ⟨key, _, shown⟩ := List.mem_filterMap.mp isKey
    rw [ForeignKey.constraint?, if_pos (inlineReferences_of_ne_mySQL notMySQL)] at shown
    cases shown

omit notMySQL in
theorem neutral_guard : Neutral target.guard := by
  rw [Target.guard]
  split <;> exact neutral_word rfl

omit notMySQL in
theorem neutral_indexGuard : Neutral target.indexGuard := by
  rw [Target.indexGuard]
  split <;> exact neutral_word rfl

/-- What creates a table is one statement. -/
theorem isStatement_createTable
    {table : TableDefinition}
    (neutral : NeutralTable table) :
    IsStatement (table.sql target) := by
  have create : BeginsStatement "CREATE TABLE " :=
    ⟨⟨'C', _, rfl, rfl⟩, neutral_word rfl⟩
  have name : BeginsStatement ("CREATE TABLE " ++ target.guard ++
      target.database.quoteTable table.id) :=
    (create.append neutral_guard).append (neutral_quoteTable notMySQL)
  have lines : Neutral (",\n    ".intercalate (table.lines target.database)) :=
    neutral_intercalate (neutral_word rfl) fun _ => neutral_lines notMySQL neutral
  have suffix : Neutral target.database.tableSuffix := by
    cases target.database <;> exact neutral_word rfl
  have definition :
      BeginsStatement ("CREATE TABLE " ++ target.guard ++ target.database.quoteTable table.id ++
        " (\n    " ++ ",\n    ".intercalate (table.lines target.database) ++ "\n)") :=
    ((name.append (neutral_word rfl)).append lines).append (neutral_word rfl)
  exact ((definition.append suffix).append neutral.comment).isStatement

/-- What creates an index is one statement. -/
theorem isStatement_createIndex
    {index : IndexDefinition} :
    IsStatement (index.sql target) := by
  have create : BeginsStatement "CREATE " :=
    ⟨⟨'C', _, rfl, rfl⟩, neutral_word rfl⟩
  have unique : Neutral (if index.unique then "UNIQUE " else "") := by
    split <;> exact neutral_word rfl
  have name :
      BeginsStatement ("CREATE " ++ (if index.unique then "UNIQUE " else "") ++ "INDEX " ++
        target.indexGuard ++ target.database.quote index.name) :=
    (((create.append unique).append (neutral_word rfl)).append neutral_indexGuard).append
      (neutral_quote notMySQL)
  have table :
      BeginsStatement ("CREATE " ++ (if index.unique then "UNIQUE " else "") ++ "INDEX " ++
        target.indexGuard ++ target.database.quote index.name ++ " ON " ++
        target.database.quoteTable index.table) :=
    (name.append (neutral_word rfl)).append (neutral_quoteTable notMySQL)
  have opening : Neutral " (" := neutral_word rfl
  have columns : Neutral (target.database.quoteList index.columns) := neutral_quoteList notMySQL
  have closing : Neutral ")" := neutral_word rfl
  exact ((table.append opening).append columns).isStatement_of_eq closing rfl

/-- What creates a namespace is one statement. -/
theorem isStatement_createNamespace
    {name : String} :
    IsStatement ((Statement.createNamespace name).sql target) := by
  have create : BeginsStatement "CREATE SCHEMA " :=
    ⟨⟨'C', _, rfl, rfl⟩, neutral_word rfl⟩
  exact ((create.append neutral_guard).append (neutral_quote notMySQL)).isStatement

/-- A statement in writing is read as one statement. -/
theorem isStatement_sql
    {statement : Statement}
    (neutral : NeutralStatement statement) :
    IsStatement (statement.sql target) := by
  cases statement with
  | createNamespace name => exact isStatement_createNamespace notMySQL
  | createTable table => exact isStatement_createTable notMySQL neutral
  | createIndex index => exact isStatement_createIndex notMySQL
  | comment text => exact neutral

end Statements

end SchemaScript.Sql
