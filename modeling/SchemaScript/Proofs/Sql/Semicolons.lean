import SchemaScript.Proofs.Dialect
import SchemaScript.Proofs.Sql.Name
import SchemaScript.Proofs.Sql.Parts
import SchemaScript.Proofs.Sql.Writing

/-!
# Texts without semicolons

Marks, literals and comments add no semicolons to what stands in them, and the
words of databases hold none.  The parts of a statement are therefore without
semicolons when its names are, and the texts that it takes from the model.
-/

namespace SchemaScript.Sql

open Database

/-- A text without semicolons. -/
def NoSemicolon (text : String) : Prop :=
  ';' ∉ text.toList

instance (text : String) : Decidable (NoSemicolon text) :=
  inferInstanceAs (Decidable (';' ∉ text.toList))

/-! ## Texts -/

@[simp] theorem noSemicolon_append
    {first second : String} :
    NoSemicolon (first ++ second) ↔ NoSemicolon first ∧ NoSemicolon second := by
  simp [NoSemicolon]

theorem noSemicolon_empty : NoSemicolon "" := by
  decide

/-- A semicolon is no plain character. -/
theorem PlainText.noSemicolon
    {text : String}
    (plain : PlainText text) :
    NoSemicolon text := by
  intro member
  have notPlain : isPlain ';' = false := rfl
  rw [plain ';' member] at notPlain
  cases notPlain

/-- A word whose characters are plain holds no semicolon. -/
theorem noSemicolon_word
    {text : String}
    (plain : text.toList.all isPlain = true) :
    NoSemicolon text :=
  (plainText_word plain).noSemicolon

/-- Doubling a mark brings no semicolon into a text. -/
theorem not_mem_doubleChar
    {mark : Char}
    {text : List Char}
    (free : ';' ∉ text) :
    ';' ∉ doubleChar mark text := by
  intro member
  obtain ⟨character, inText, doubled⟩ := List.mem_flatMap.mp member
  have same : ';' = character := by
    split at doubled
    · next isMark => simpa [isMark] using doubled
    · simpa using doubled
  exact free (same ▸ inText)

/-- Quoting brings no semicolon into a name. -/
theorem noSemicolon_quote
    {database : Database}
    {name : String}
    (free : NoSemicolon name) :
    NoSemicolon (database.quote name) := by
  have mark : ';' ≠ database.quoteMark := by
    cases database <;> decide
  rw [NoSemicolon, quote, String.toList_ofList]
  simp [mark, not_mem_doubleChar free]

/-- Escaping brings no semicolon into a literal. -/
theorem noSemicolon_escapeLiteral
    {text : String}
    (free : NoSemicolon text) :
    NoSemicolon (escapeLiteral text) := by
  rw [NoSemicolon, escapeLiteral, String.toList_ofList]
  exact not_mem_doubleChar free

/-- Opening the ends of blocks brings no semicolon into a text. -/
theorem not_mem_openBlockEnds
    {text : List Char}
    (free : ';' ∉ text) :
    ';' ∉ openBlockEnds text := by
  induction text using openBlockEnds.induct with
  | case1 rest inductionHypothesis =>
      simp only [List.mem_cons, not_or] at free
      simp [openBlockEnds, inductionHypothesis free.2.2]
  | case2 character rest noEnd inductionHypothesis =>
      rw [List.mem_cons, not_or] at free
      rw [openBlockEnds, List.mem_cons, not_or]
      · exact ⟨free.1, inductionHypothesis free.2⟩
      · exact noEnd
  | case3 =>
      exact free

/-- Escaping brings no semicolon into a comment. -/
theorem noSemicolon_escapeComment
    {database : Database}
    {text : String}
    (free : NoSemicolon text) :
    NoSemicolon (database.escapeComment text) := by
  have literal := noSemicolon_escapeLiteral free
  rw [escapeComment]
  split
  · rw [NoSemicolon, String.toList_ofList]
    exact not_mem_openBlockEnds literal
  · exact literal

/-! ## Derived names -/

/-- The beginning of a text has no semicolon that the text has not. -/
theorem noSemicolon_leading
    {count : Nat}
    {text : String}
    (free : NoSemicolon text) :
    NoSemicolon (leading count text) := by
  rw [NoSemicolon, leading, String.toList_ofList]
  exact fun member => free (List.mem_of_mem_take member)

/-- The digits of a digest are hexadecimal. -/
theorem noSemicolon_shortDigest
    {length : Nat}
    {parts : List String} :
    NoSemicolon (shortDigest length parts) := by
  apply noSemicolon_leading
  rw [NoSemicolon, Text.digest, String.toList_ofList]
  intro member
  obtain ⟨word, _, isDigit⟩ := List.mem_flatMap.mp member
  obtain ⟨shift, _, digit⟩ := List.mem_map.mp isDigit
  have noDigit : ∀ number < 16, Nat.digitChar number ≠ ';' := by
    decide
  exact noDigit _ (Nat.mod_lt _ (by decide)) digit

/-- The name of an index has no semicolon that its table and columns have not. -/
theorem noSemicolon_indexName
    {kind table : String}
    {columns : List String}
    (ofKind : NoSemicolon kind)
    (ofTable : NoSemicolon table)
    (ofColumns : ∀ column ∈ columns, NoSemicolon column) :
    NoSemicolon (indexName kind table columns) := by
  have line : NoSemicolon "_" :=
    noSemicolon_word rfl
  have first : NoSemicolon (columns.headD "") := by
    cases columns with
    | nil => exact noSemicolon_empty
    | cons column later => exact ofColumns column List.mem_cons_self
  rw [indexName_eq]
  simp only [noSemicolon_append, ofKind, line, noSemicolon_leading ofTable,
    noSemicolon_leading first, noSemicolon_shortDigest, and_self]

/-- The name of a foreign key has no semicolon that its two tables have not. -/
theorem noSemicolon_foreignKeyName
    {fromTable fromColumn toTable toColumn : String}
    (ofFromTable : NoSemicolon fromTable)
    (ofToTable : NoSemicolon toTable) :
    NoSemicolon (foreignKeyName fromTable fromColumn toTable toColumn) := by
  have kind : NoSemicolon "fk_" :=
    noSemicolon_word rfl
  have line : NoSemicolon "_" :=
    noSemicolon_word rfl
  rw [foreignKeyName_eq]
  simp [kind, line, noSemicolon_leading ofFromTable, noSemicolon_leading ofToTable,
    noSemicolon_shortDigest]

/-! ## Words in parts -/

/-- The words that some parts hold are without semicolons. -/
def WordsFree (parts : List Part) : Prop :=
  ∀ text, .words text ∈ parts → NoSemicolon text

@[simp] theorem wordsFree_nil : WordsFree [] := by
  simp [WordsFree]

@[simp] theorem wordsFree_words
    {text : String}
    {later : List Part} :
    WordsFree (.words text :: later) ↔ NoSemicolon text ∧ WordsFree later := by
  simp [WordsFree, or_imp, forall_and]

@[simp] theorem wordsFree_name
    {name : String}
    {later : List Part} :
    WordsFree (.name name :: later) ↔ WordsFree later := by
  simp [WordsFree]

@[simp] theorem wordsFree_append
    {parts later : List Part} :
    WordsFree (parts ++ later) ↔ WordsFree parts ∧ WordsFree later := by
  simp [WordsFree, or_imp, forall_and]

/-- Parts between separators have no semicolons in their words when neither has one. -/
theorem wordsFree_intercalate
    {separator : String}
    {lists : List (List Part)}
    (between : NoSemicolon separator)
    (each : ∀ parts ∈ lists, WordsFree parts) :
    WordsFree ([.words separator].intercalate lists) := by
  induction lists with
  | nil =>
      exact wordsFree_nil
  | cons first later inductionHypothesis =>
      obtain ⟨ofFirst, ofLater⟩ := List.forall_mem_cons.mp each
      cases later with
      | nil =>
          simpa using ofFirst
      | cons second rest =>
          rw [List.intercalate_cons_of_ne_nil (List.cons_ne_nil _ _)]
          simp [between, ofFirst, inductionHypothesis ofLater]

/-- What is written from names and words without semicolons has none. -/
theorem noSemicolon_write
    {database : Database}
    {parts : List Part}
    (names : NamesAre NoSemicolon parts)
    (words : WordsFree parts) :
    NoSemicolon (write database parts) := by
  induction parts with
  | nil =>
      exact noSemicolon_empty
  | cons part later inductionHypothesis =>
      cases part with
      | words text =>
          rw [wordsFree_words] at words
          rw [namesAre_words] at names
          simp [words.1, inductionHypothesis names words.2]
      | name name =>
          rw [wordsFree_name] at words
          rw [namesAre_name] at names
          simp [noSemicolon_quote names.1, inductionHypothesis names.2 words]

variable {database : Database} {target : Target}

/-- A table has no words but the point after its namespace. -/
theorem wordsFree_tableParts
    {id : TableId} :
    WordsFree (tableParts id) := by
  have point : NoSemicolon "." :=
    noSemicolon_word rfl
  rw [tableParts]
  split <;> simp [point]

/-- A list of names has no words but commas. -/
theorem wordsFree_listParts
    {names : List String} :
    WordsFree (listParts names) := by
  refine wordsFree_intercalate (by decide) ?_
  simp

/-- What a key refers to is said without semicolons. -/
theorem ForeignKey.wordsFree_parts
    {key : ForeignKey} :
    WordsFree key.parts := by
  have fixed : NoSemicolon "REFERENCES " ∧ NoSemicolon " (" ∧ NoSemicolon ") ON DELETE " :=
    ⟨noSemicolon_word rfl, noSemicolon_word rfl, noSemicolon_word rfl⟩
  have action : NoSemicolon key.onDelete.sql := by
    cases key.onDelete <;> decide
  simp [parts, fixed, action, wordsFree_tableParts]

theorem ForeignKey.wordsFree_inlineParts
    {key : ForeignKey} :
    WordsFree (key.inlineParts database) := by
  have blank : NoSemicolon " " :=
    noSemicolon_word rfl
  rw [inlineParts]
  split <;> simp [blank, wordsFree_parts]

/-- A key on a line of its own is said without semicolons. -/
theorem ForeignKey.wordsFree_constraintParts
    {key : ForeignKey}
    {parts : List Part}
    (shown : key.constraintParts? database = some parts) :
    WordsFree parts := by
  have fixed : NoSemicolon "CONSTRAINT " ∧ NoSemicolon " FOREIGN KEY (" ∧ NoSemicolon ") " :=
    ⟨noSemicolon_word rfl, noSemicolon_word rfl, noSemicolon_word rfl⟩
  rw [constraintParts?] at shown
  split at shown
  · cases shown
  · cases shown
    simp [fixed, wordsFree_parts]

/-- The line of a column has the semicolons of its type, default and comment only. -/
theorem Column.wordsFree_parts
    {column : Column}
    (words : ∀ word ∈ column.body.words, NoSemicolon word)
    (comment : NoSemicolon column.comment) :
    WordsFree (column.parts database) := by
  have definition :
      WordsFree ([.words " "].intercalate
        ([.name column.name] :: column.body.words.map fun word => [.words word])) := by
    refine wordsFree_intercalate (by decide) ?_
    simpa using words
  have clause : WordsFree ((column.reference.map (·.inlineParts database)).getD []) := by
    cases column.reference with
    | none => exact wordsFree_nil
    | some key => exact key.wordsFree_inlineParts
  rw [parts, wordsFree_append, wordsFree_append]
  exact ⟨⟨definition, clause⟩, by simp [comment]⟩

/-- The line of a unique constraint is said without semicolons. -/
theorem UniqueConstraint.wordsFree_parts
    {constraint : UniqueConstraint} :
    WordsFree constraint.parts := by
  have fixed : NoSemicolon "CONSTRAINT " ∧ NoSemicolon " UNIQUE (" ∧ NoSemicolon ")" :=
    ⟨noSemicolon_word rfl, noSemicolon_word rfl, noSemicolon_word rfl⟩
  simp [parts, fixed, wordsFree_listParts]

theorem noSemicolon_guard : NoSemicolon target.guard ∧ NoSemicolon target.indexGuard := by
  rw [Target.guard, Target.indexGuard]
  constructor <;> split <;> decide

/-- An index is created without semicolons but the last one. -/
theorem IndexDefinition.wordsFree_parts
    {index : IndexDefinition} :
    WordsFree (index.parts target) := by
  have fixed :
      NoSemicolon "CREATE " ∧ NoSemicolon "INDEX " ∧ NoSemicolon " ON " ∧ NoSemicolon " (" ∧
        NoSemicolon ")" :=
    ⟨noSemicolon_word rfl, noSemicolon_word rfl, noSemicolon_word rfl, noSemicolon_word rfl,
      noSemicolon_word rfl⟩
  have unique : NoSemicolon (if index.unique then "UNIQUE " else "") := by
    split <;> decide
  simp [parts, fixed, unique, noSemicolon_guard, wordsFree_tableParts, wordsFree_listParts]

/-- A table has the semicolons of its columns and of its comment only. -/
theorem TableDefinition.wordsFree_parts
    {table : TableDefinition}
    (columns :
      ∀ column ∈ table.columns,
        (∀ word ∈ column.body.words, NoSemicolon word) ∧ NoSemicolon column.comment)
    (comment : NoSemicolon table.comment) :
    WordsFree (table.parts target) := by
  have fixed : NoSemicolon "CREATE TABLE " ∧ NoSemicolon " (\n    " ∧ NoSemicolon "\n)" :=
    ⟨noSemicolon_word rfl, noSemicolon_word rfl, noSemicolon_word rfl⟩
  have suffix : NoSemicolon target.database.tableSuffix := by
    cases target.database <;> decide
  have lines :
      WordsFree ([.words ",\n    "].intercalate (table.lineParts target.database)) := by
    refine wordsFree_intercalate (by decide) ?_
    intro parts member
    simp only [lineParts, List.mem_append, List.mem_map, List.mem_filterMap] at member
    rcases member with (⟨column, columnMember, rfl⟩ | ⟨constraint, _, rfl⟩) |
      ⟨key, _, shown⟩
    · obtain ⟨words, ofComment⟩ := columns column columnMember
      exact Column.wordsFree_parts words ofComment
    · exact constraint.wordsFree_parts
    · exact key.wordsFree_constraintParts shown
  simp [parts, fixed, suffix, lines, comment, noSemicolon_guard, wordsFree_tableParts]

/-! ## Comments -/

section Comments

variable {queue : CommentQueue} {column : String} {said? : Option String}

/-- What a comment leaves in a definition has no more semicolons than what is said. -/
theorem noSemicolon_blockFragment
    {text : String}
    (free : NoSemicolon text) :
    NoSemicolon (CommentQueue.blockFragment database text) := by
  have fixed : NoSemicolon " /* " ∧ NoSemicolon " */" := by
    decide
  unfold CommentQueue.blockFragment
  simp [fixed, noSemicolon_escapeComment free]

/-- What a column says in its line has no semicolon that its description has not. -/
theorem noSemicolon_addColumn?
    (free : ∀ text, said? = some text → NoSemicolon text) :
    NoSemicolon (queue.addColumn? database column said?).2 := by
  cases said? with
  | none =>
      exact noSemicolon_empty
  | some text =>
      have textFree := free text rfl
      simp only [CommentQueue.addColumn?]
      split
      · exact noSemicolon_empty
      · simp only [CommentQueue.addColumn]
        split
        · exact noSemicolon_empty
        · have fixed : NoSemicolon " COMMENT '" ∧ NoSemicolon "'" := by
            decide
          simp [fixed, noSemicolon_escapeComment textFree]
        · exact noSemicolon_blockFragment textFree

/-- What a table says at its end has no semicolon that its description has not. -/
theorem noSemicolon_addTable?
    (free : ∀ text, said? = some text → NoSemicolon text) :
    NoSemicolon (queue.addTable? database said?).2 := by
  cases said? with
  | none =>
      exact noSemicolon_empty
  | some text =>
      have textFree := free text rfl
      simp only [CommentQueue.addTable?]
      split
      · exact noSemicolon_empty
      · simp only [CommentQueue.addTable]
        split
        · exact noSemicolon_empty
        · have fixed : NoSemicolon " COMMENT='" ∧ NoSemicolon "'" := by
            decide
          simp [fixed, noSemicolon_escapeComment textFree]
        · exact noSemicolon_blockFragment textFree

end Comments

/-! ## Statements -/

/-- A statement takes over no text with a semicolon; a comment has only the one at its end. -/
def Statement.TextsFree : Statement → Prop
  | .createNamespace _ => True
  | .createTable table =>
      (∀ column ∈ table.columns,
        (∀ word ∈ column.body.words, NoSemicolon word) ∧ NoSemicolon column.comment) ∧
        NoSemicolon table.comment
  | .createIndex _ => True
  | .comment text => ∃ body, text = body ++ ";" ∧ NoSemicolon body

/-- A comment is without semicolons before its end when its names are, and what it says. -/
theorem textsFree_columnStatement
    {id : TableId}
    {column text : String}
    (idFree : NamesAre NoSemicolon (tableParts id))
    (columnFree : NoSemicolon column)
    (textFree : NoSemicolon text) :
    Statement.TextsFree
      (.comment
        (CommentQueue.columnStatement target.database (target.database.quoteTable id) column
          text)) := by
  refine ⟨_, (Statement.MadeOf.columnComment id column text).sql_eq, noSemicolon_write ?_ ?_⟩
  · simp [idFree, columnFree]
  · have fixed :
        NoSemicolon "COMMENT ON COLUMN " ∧ NoSemicolon "." ∧ NoSemicolon " IS '" ∧
          NoSemicolon "'" :=
      ⟨noSemicolon_word rfl, noSemicolon_word rfl, by decide, by decide⟩
    simp [fixed, wordsFree_tableParts, noSemicolon_escapeComment textFree]

/-- A comment on a table has the semicolons of its text only. -/
theorem textsFree_tableStatement
    {id : TableId}
    {text : String}
    (idFree : NamesAre NoSemicolon (tableParts id))
    (textFree : NoSemicolon text) :
    Statement.TextsFree
      (.comment
        (CommentQueue.tableStatement target.database (target.database.quoteTable id) text)) := by
  refine ⟨_, (Statement.MadeOf.tableComment id text).sql_eq, noSemicolon_write ?_ ?_⟩
  · simp [idFree]
  · have fixed :
        NoSemicolon "COMMENT ON TABLE " ∧ NoSemicolon " IS '" ∧ NoSemicolon "'" :=
      ⟨noSemicolon_word rfl, by decide, by decide⟩
    simp [fixed, wordsFree_tableParts, noSemicolon_escapeComment textFree]

/-- A statement has one semicolon, at its end, if its names and texts are free of them. -/
theorem Statement.MadeOf.exists_body
    {statement : Statement}
    {parts : List Part}
    (madeOf : statement.MadeOf target parts)
    (names : NamesAre NoSemicolon parts)
    (texts : statement.TextsFree) :
    ∃ body, statement.sql target = body ++ ";" ∧ NoSemicolon body := by
  have ofWords (words : WordsFree parts) :
      ∃ body, statement.sql target = body ++ ";" ∧ NoSemicolon body :=
    ⟨_, madeOf.sql_eq, noSemicolon_write names words⟩
  cases madeOf with
  | createNamespace name =>
      have create : NoSemicolon "CREATE SCHEMA " :=
        noSemicolon_word rfl
      exact ofWords (by simp [create, noSemicolon_guard])
  | createTable table =>
      exact ofWords (table.wordsFree_parts texts.1 texts.2)
  | createIndex index =>
      exact ofWords index.wordsFree_parts
  | columnComment id column text =>
      exact texts
  | tableComment id text =>
      exact texts

end SchemaScript.Sql
