import SchemaScript.Sql.ForeignKey
import SchemaScript.Target

namespace SchemaScript.Sql

/-!
# Statements

The statements of a script, before they are written out, and how each of them
is written for a target.
-/

/-- What a column's definition says after its name. -/
inductive ColumnBody where
  /-- A primary key that the database assigns, in the database's own words. -/
  | generated (clause : String)
  | plain
      (sqlType : String)
      (notNull unique primaryKey : Bool)
      (defaultLiteral : Option String)
  deriving DecidableEq, Repr

/-- The words of a column's definition after its name. -/
def ColumnBody.words : ColumnBody → List String
  | .generated clause => [clause]
  | .plain sqlType notNull unique primaryKey defaultLiteral =>
      [sqlType] ++ (if notNull then ["NOT NULL"] else []) ++
        (if unique then ["UNIQUE"] else []) ++
        (if primaryKey then ["PRIMARY KEY"] else []) ++
        (defaultLiteral.toList.map fun literal => "DEFAULT " ++ literal)

/-- A column of a table. -/
structure Column where
  name : String
  body : ColumnBody
  reference : Option ForeignKey
  /-- The comment that stands in the definition. -/
  comment : String
  deriving DecidableEq, Repr

namespace Column

/-- The line of a column with a given clause between its definition and its comment. -/
def lineWith (column : Column) (database : Database) (clause : String) : String :=
  " ".intercalate (database.quote column.name :: column.body.words) ++ clause ++ column.comment

/-- The line of a column. -/
def line (column : Column) (database : Database) : String :=
  column.lineWith database ((column.reference.map (·.inline database)).getD "")

end Column

/-- A constraint that makes the values of some columns unique together. -/
structure UniqueConstraint where
  name : String
  columns : List String
  deriving DecidableEq, Repr

/-- The line of a unique constraint. -/
def UniqueConstraint.line (constraint : UniqueConstraint) (database : Database) : String :=
  "CONSTRAINT " ++ database.quote constraint.name ++ " UNIQUE (" ++
    database.quoteList constraint.columns ++ ")"

/-- A table to create. -/
structure TableDefinition where
  id : TableId
  columns : List Column
  uniques : List UniqueConstraint
  /-- The comment that stands in the definition. -/
  comment : String
  deriving DecidableEq, Repr

namespace TableDefinition

/-- The foreign keys of the table, in the order of its columns. -/
def foreignKeys (table : TableDefinition) : List ForeignKey :=
  table.columns.filterMap (·.reference)

/-- The lines of the table: columns, unique constraints, foreign keys. -/
def lines (table : TableDefinition) (database : Database) : List String :=
  (table.columns.map (·.line database)) ++ (table.uniques.map (·.line database)) ++
    table.foreignKeys.filterMap (·.constraint? database)

/-- The statement that creates the table. -/
def sql (table : TableDefinition) (target : Target) : String :=
  "CREATE TABLE " ++ target.guard ++ target.database.quoteTable table.id ++ " (\n    " ++
    ",\n    ".intercalate (table.lines target.database) ++ "\n)" ++
    target.database.tableSuffix ++ table.comment ++ ";"

end TableDefinition

/-- An index to create. -/
structure IndexDefinition where
  name : String
  table : TableId
  columns : List String
  unique : Bool
  deriving DecidableEq, Repr

namespace IndexDefinition

/-- The statement that creates an index on a table, which is given as statements name it. -/
def sqlOn (target : Target) (table name : String) (columns : List String) (unique : Bool) :
    String :=
  "CREATE " ++ (if unique then "UNIQUE " else "") ++ "INDEX " ++ target.indexGuard ++
    target.database.quote name ++ " ON " ++ table ++ " (" ++
    target.database.quoteList columns ++ ");"

/-- The statement that creates the index. -/
def sql (index : IndexDefinition) (target : Target) : String :=
  sqlOn target (target.database.quoteTable index.table) index.name index.columns index.unique

end IndexDefinition

/-- A statement of a script. -/
inductive Statement where
  | createNamespace (name : String)
  | createTable (table : TableDefinition)
  | createIndex (index : IndexDefinition)
  | comment (text : String)
  deriving DecidableEq, Repr

/-- A statement in writing. -/
def Statement.sql (target : Target) : Statement → String
  | .createNamespace name =>
      "CREATE SCHEMA " ++ target.guard ++ target.database.quote name ++ ";"
  | .createTable table => table.sql target
  | .createIndex index => index.sql target
  | .comment text => text

/-- Statements in writing, one after another. -/
def block (target : Target) (statements : List Statement) : String :=
  "\n".intercalate (statements.map (Statement.sql target))

end SchemaScript.Sql
