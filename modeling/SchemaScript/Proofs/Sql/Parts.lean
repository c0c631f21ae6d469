import SchemaScript.Sql.Comment
import SchemaScript.Sql.Statement

/-!
# Parts of statements

A statement consists of words, which are written as they are, and of names,
which the database puts between its marks.  The parts of a statement tell which
names those are, and written one after another they are the statement without
the semicolon at its end.
-/

namespace SchemaScript.Sql

/-- A part of a statement. -/
inductive Part where
  | words (text : String)
  | name (name : String)
  deriving DecidableEq, Repr

/-- A part in writing: names stand between marks. -/
def Part.sql (database : Database) : Part → String
  | .words text => text
  | .name text => database.quote text

/-- Parts in writing, one after another. -/
def write (database : Database) : List Part → String
  | [] => ""
  | part :: later => part.sql database ++ write database later

section Write

variable {database : Database}

@[simp] theorem write_nil : write database [] = "" := rfl

@[simp] theorem write_words
    {text : String}
    {later : List Part} :
    write database (.words text :: later) = text ++ write database later :=
  rfl

@[simp] theorem write_name
    {name : String}
    {later : List Part} :
    write database (.name name :: later) = database.quote name ++ write database later :=
  rfl

@[simp] theorem write_append
    {parts later : List Part} :
    write database (parts ++ later) = write database parts ++ write database later := by
  induction parts with
  | nil =>
      simp
  | cons part rest inductionHypothesis =>
      rw [List.cons_append, write, write, inductionHypothesis, String.append_assoc]

/-- Lists of parts with words between them are their texts with these words between them. -/
@[simp] theorem write_intercalate
    {separator : String}
    {lists : List (List Part)} :
    write database ([.words separator].intercalate lists) =
      separator.intercalate (lists.map (write database)) := by
  induction lists with
  | nil =>
      rfl
  | cons first later inductionHypothesis =>
      cases later with
      | nil =>
          simp
      | cons second rest =>
          rw [List.intercalate_cons_of_ne_nil (List.cons_ne_nil _ _), List.map_cons,
            String.intercalate_cons_of_ne_nil (by simp), write_append, write_append,
            inductionHypothesis]
          simp

end Write

/-! ## Names -/

/-- The names of a table: that of its namespace, if it has one, and its own. -/
def tableParts (id : TableId) : List Part :=
  match id.namespaceName? with
  | some name => [.name name, .words ".", .name id.table]
  | none => [.name id.table]

/-- Names, separated by commas. -/
def listParts (names : List String) : List Part :=
  [.words ", "].intercalate (names.map fun name => [.name name])

@[simp] theorem write_tableParts
    {database : Database}
    {id : TableId} :
    write database (tableParts id) = database.quoteTable id := by
  rw [tableParts, Database.quoteTable]
  cases id.namespaceName? <;> simp [String.append_assoc]

@[simp] theorem write_listParts
    {database : Database}
    {names : List String} :
    write database (listParts names) = database.quoteList names := by
  have written : write database ∘ (fun name => [.name name]) = database.quote := by
    funext name
    simp
  rw [listParts, write_intercalate, List.map_map, written, Database.quoteList]

/-! ## Definitions -/

/-- The clause that names the table and column referred to. -/
def ForeignKey.parts (key : ForeignKey) : List Part :=
  [.words "REFERENCES "] ++ tableParts key.target ++
    [.words " (", .name key.targetColumn, .words ") ON DELETE ", .words key.onDelete.sql]

/-- What stands in the definition of the key's column. -/
def ForeignKey.inlineParts (key : ForeignKey) (database : Database) : List Part :=
  if database.inlineReferences then .words " " :: key.parts else []

/-- The constraint of the table, where the key does not stand in the column. -/
def ForeignKey.constraintParts? (key : ForeignKey) (database : Database) : Option (List Part) :=
  if database.inlineReferences then
    none
  else
    some
      ([.words "CONSTRAINT ", .name key.constraintName, .words " FOREIGN KEY (",
        .name key.column, .words ") "] ++ key.parts)

/-- The line of a column. -/
def Column.parts (column : Column) (database : Database) : List Part :=
  [.words " "].intercalate
      ([.name column.name] :: column.body.words.map fun word => [.words word]) ++
    (column.reference.map (·.inlineParts database)).getD [] ++ [.words column.comment]

/-- The line of a unique constraint. -/
def UniqueConstraint.parts (constraint : UniqueConstraint) : List Part :=
  [.words "CONSTRAINT ", .name constraint.name, .words " UNIQUE ("] ++
    listParts constraint.columns ++ [.words ")"]

/-- The lines of a table: columns, unique constraints, foreign keys. -/
def TableDefinition.lineParts (table : TableDefinition) (database : Database) :
    List (List Part) :=
  (table.columns.map (·.parts database)) ++ (table.uniques.map (·.parts)) ++
    table.foreignKeys.filterMap (·.constraintParts? database)

/-- What creates a table, without the semicolon. -/
def TableDefinition.parts (table : TableDefinition) (target : Target) : List Part :=
  [.words "CREATE TABLE ", .words target.guard] ++ tableParts table.id ++ [.words " (\n    "] ++
    [.words ",\n    "].intercalate (table.lineParts target.database) ++
    [.words "\n)", .words target.database.tableSuffix, .words table.comment]

/-- What creates an index, without the semicolon. -/
def IndexDefinition.parts (index : IndexDefinition) (target : Target) : List Part :=
  [.words "CREATE ", .words (if index.unique then "UNIQUE " else ""), .words "INDEX ",
    .words target.indexGuard, .name index.name, .words " ON "] ++ tableParts index.table ++
    [.words " ("] ++ listParts index.columns ++ [.words ")"]

section Definitions

variable {database : Database} {target : Target}

@[simp] theorem ForeignKey.write_parts
    {key : ForeignKey} :
    write database key.parts = key.references database := by
  unfold parts references
  simp [String.append_assoc]

@[simp] theorem ForeignKey.write_inlineParts
    {key : ForeignKey} :
    write database (key.inlineParts database) = key.inline database := by
  rw [inlineParts, inline]
  split <;> simp

/-- The parts of a key on a line of its own are those of its line. -/
theorem ForeignKey.map_write_constraintParts?
    {key : ForeignKey} :
    (key.constraintParts? database).map (write database) = key.constraint? database := by
  unfold constraintParts? constraint?
  split
  · rfl
  · simp [String.append_assoc]

/-- The parts of a column are those of its line. -/
theorem Column.write_parts
    {column : Column} :
    write database (column.parts database) = column.line database := by
  have words : write database ∘ (fun word => [.words word]) = id := by
    funext word
    simp
  have clause :
      write database ((column.reference.map (·.inlineParts database)).getD []) =
        (column.reference.map (·.inline database)).getD "" := by
    cases column.reference <;> simp
  rw [parts, write_append, write_append, clause, write_intercalate, List.map_cons, List.map_map,
    words, List.map_id, write_name, write_nil, String.append_empty, write_words, write_nil,
    String.append_empty, line, lineWith]

/-- The parts of a unique constraint are those of its line. -/
theorem UniqueConstraint.write_parts
    {constraint : UniqueConstraint} :
    write database constraint.parts = constraint.line database := by
  unfold parts line
  simp [String.append_assoc]

/-- The parts of the lines of a table are those of its lines. -/
theorem TableDefinition.map_write_lineParts
    {table : TableDefinition} :
    (table.lineParts database).map (write database) = table.lines database := by
  simp only [lineParts, lines, List.map_append, List.map_map, List.map_filterMap,
    ForeignKey.map_write_constraintParts?]
  congr 2
  · exact List.map_congr_left fun _ _ => Column.write_parts
  · exact List.map_congr_left fun _ _ => UniqueConstraint.write_parts

/-- The parts of a table are those of the statement that creates it. -/
theorem TableDefinition.write_parts
    {table : TableDefinition} :
    write target.database (table.parts target) ++ ";" = table.sql target := by
  unfold parts sql
  apply String.toList_injective
  simp only [map_write_lineParts, write_words, write_append, write_tableParts, write_intercalate,
    write_nil, String.append_empty, String.toList_append, List.append_assoc]

/-- The parts of an index are those of the statement that creates it. -/
theorem IndexDefinition.write_parts
    {index : IndexDefinition} :
    write target.database (index.parts target) ++ ";" = index.sql target := by
  have closing : ");".toList = ")".toList ++ ";".toList := rfl
  unfold parts sql sqlOn
  apply String.toList_injective
  simp only [write_words, write_name, write_append, write_tableParts, write_listParts, write_nil,
    String.append_empty, String.toList_append, List.append_assoc, closing]

end Definitions

/-! ## Statements -/

/-- A statement is made of parts, apart from the semicolon at its end. -/
inductive Statement.MadeOf (target : Target) : Statement → List Part → Prop
  | createNamespace (name : String) :
      MadeOf target (.createNamespace name)
        [.words "CREATE SCHEMA ", .words target.guard, .name name]
  | createTable (table : TableDefinition) :
      MadeOf target (.createTable table) (table.parts target)
  | createIndex (index : IndexDefinition) :
      MadeOf target (.createIndex index) (index.parts target)
  | columnComment (id : TableId) (column text : String) :
      MadeOf target
        (.comment
          (CommentQueue.columnStatement target.database (target.database.quoteTable id) column
            text))
        ([.words "COMMENT ON COLUMN "] ++ tableParts id ++
          [.words ".", .name column, .words " IS '", .words (target.database.escapeComment text),
            .words "'"])
  | tableComment (id : TableId) (text : String) :
      MadeOf target
        (.comment
          (CommentQueue.tableStatement target.database (target.database.quoteTable id) text))
        ([.words "COMMENT ON TABLE "] ++ tableParts id ++
          [.words " IS '", .words (target.database.escapeComment text), .words "'"])

/-- A statement is its parts, written one after another, and a semicolon. -/
theorem Statement.MadeOf.sql_eq
    {target : Target}
    {statement : Statement}
    {parts : List Part}
    (madeOf : statement.MadeOf target parts) :
    statement.sql target = write target.database parts ++ ";" := by
  have closing : "';".toList = "'".toList ++ ";".toList := rfl
  apply String.toList_injective
  cases madeOf with
  | createNamespace name =>
      unfold Statement.sql
      simp
  | createTable table =>
      rw [TableDefinition.write_parts]
      rfl
  | createIndex index =>
      rw [IndexDefinition.write_parts]
      rfl
  | columnComment id column text =>
      unfold Statement.sql CommentQueue.columnStatement
      simp only [write_words, write_name, write_append, write_tableParts, write_nil,
        String.append_empty, String.toList_append, List.append_assoc, closing]
  | tableComment id text =>
      unfold Statement.sql CommentQueue.tableStatement
      simp only [write_words, write_append, write_tableParts, write_nil, String.append_empty,
        String.toList_append, List.append_assoc, closing]

/-! ## Names in parts -/

/-- All names that some parts hold have a property. -/
def NamesAre (allowed : String → Prop) (parts : List Part) : Prop :=
  ∀ name, .name name ∈ parts → allowed name

section NamesAre

variable {allowed : String → Prop}

@[simp] theorem namesAre_nil : NamesAre allowed [] := by
  simp [NamesAre]

@[simp] theorem namesAre_words
    {text : String}
    {later : List Part} :
    NamesAre allowed (.words text :: later) ↔ NamesAre allowed later := by
  simp [NamesAre]

@[simp] theorem namesAre_name
    {name : String}
    {later : List Part} :
    NamesAre allowed (.name name :: later) ↔ allowed name ∧ NamesAre allowed later := by
  simp [NamesAre, or_imp, forall_and]

@[simp] theorem namesAre_append
    {parts later : List Part} :
    NamesAre allowed (parts ++ later) ↔ NamesAre allowed parts ∧ NamesAre allowed later := by
  simp [NamesAre, or_imp, forall_and]

/-- Separators bring in no names. -/
@[simp] theorem namesAre_intercalate
    {separator : String}
    {lists : List (List Part)} :
    NamesAre allowed ([.words separator].intercalate lists) ↔
      ∀ parts ∈ lists, NamesAre allowed parts := by
  induction lists with
  | nil =>
      simp
  | cons first later inductionHypothesis =>
      cases later with
      | nil =>
          simp
      | cons second rest =>
          rw [List.intercalate_cons_of_ne_nil (List.cons_ne_nil _ _), namesAre_append,
            namesAre_append, inductionHypothesis, List.forall_mem_cons (a := first)]
          simp

/-- The names of a table are its own and that of its namespace. -/
theorem namesAre_tableParts
    {id : TableId} :
    NamesAre allowed (tableParts id) ↔
      (∀ name, id.namespaceName? = some name → allowed name) ∧ allowed id.table := by
  rw [tableParts]
  cases id.namespaceName? <;> simp

@[simp] theorem namesAre_listParts
    {names : List String} :
    NamesAre allowed (listParts names) ↔ ∀ name ∈ names, allowed name := by
  simp [listParts]

/-- All names that a foreign key shows, in its column or as a constraint, have a property. -/
structure ForeignKey.NamesAre (allowed : String → Prop) (key : ForeignKey) : Prop where
  target : Sql.NamesAre allowed (tableParts key.target)
  targetColumn : allowed key.targetColumn
  column : allowed key.column
  constraintName : allowed key.constraintName

variable {database : Database} {key : ForeignKey} {column : Column}
  {constraint : UniqueConstraint} {index : IndexDefinition} {table : TableDefinition}
  {target : Target}

theorem ForeignKey.NamesAre.parts
    (namesAre : key.NamesAre allowed) :
    Sql.NamesAre allowed key.parts := by
  simp [ForeignKey.parts, namesAre.target, namesAre.targetColumn]

theorem ForeignKey.NamesAre.inlineParts
    (namesAre : key.NamesAre allowed) :
    Sql.NamesAre allowed (key.inlineParts database) := by
  rw [ForeignKey.inlineParts]
  split
  · simp [namesAre.parts]
  · simp

theorem ForeignKey.NamesAre.constraintParts
    (namesAre : key.NamesAre allowed)
    {parts : List Part}
    (shown : key.constraintParts? database = some parts) :
    Sql.NamesAre allowed parts := by
  rw [constraintParts?] at shown
  split at shown
  · cases shown
  · cases shown
    simp [namesAre.constraintName, namesAre.column, namesAre.parts]

/-- A column names only what is allowed. -/
theorem Column.namesAre_parts
    (name : allowed column.name)
    (reference : ∀ key, column.reference = some key → key.NamesAre allowed) :
    NamesAre allowed (column.parts database) := by
  have clause : NamesAre allowed ((column.reference.map (·.inlineParts database)).getD []) := by
    cases shown : column.reference with
    | none =>
        simp
    | some key =>
        exact (reference key shown).inlineParts
  simp [parts, name, clause]

/-- A unique constraint names only what is allowed. -/
theorem UniqueConstraint.namesAre_parts
    (name : allowed constraint.name)
    (columns : ∀ column ∈ constraint.columns, allowed column) :
    NamesAre allowed constraint.parts := by
  simpa [parts, name] using columns

/-- The names of an index are its own and those of its table and columns. -/
theorem IndexDefinition.namesAre_parts
    (name : allowed index.name)
    (table : NamesAre allowed (tableParts index.table))
    (columns : ∀ column ∈ index.columns, allowed column) :
    NamesAre allowed (index.parts target) := by
  simpa [parts, name, table] using columns

/-- The names of a table are those of its id, its columns, its keys and its constraints. -/
theorem TableDefinition.namesAre_parts
    (id : NamesAre allowed (tableParts table.id))
    (columns :
      ∀ column ∈ table.columns,
        allowed column.name ∧ ∀ key, column.reference = some key → key.NamesAre allowed)
    (uniques : ∀ constraint ∈ table.uniques, NamesAre allowed constraint.parts) :
    NamesAre allowed (table.parts target) := by
  have lines : ∀ parts ∈ table.lineParts target.database, NamesAre allowed parts := by
    intro parts member
    simp only [lineParts, List.mem_append, List.mem_map, List.mem_filterMap] at member
    rcases member with (⟨column, columnMember, rfl⟩ | ⟨constraint, constraintMember, rfl⟩) |
      ⟨key, keyMember, shown⟩
    · obtain ⟨name, reference⟩ := columns column columnMember
      exact Column.namesAre_parts name reference
    · exact uniques constraint constraintMember
    · obtain ⟨column, columnMember, reference⟩ := List.mem_filterMap.mp keyMember
      exact ((columns column columnMember).2 key reference).constraintParts shown
  simpa [TableDefinition.parts, id] using lines

end NamesAre

end SchemaScript.Sql
