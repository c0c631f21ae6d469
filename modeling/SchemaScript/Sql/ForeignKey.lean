import SchemaScript.Dialect
import SchemaScript.Relation
import SchemaScript.Sql.Name

namespace SchemaScript.Sql

/-!
# Foreign keys

A foreign key stands in its column's definition or is a constraint of the
table, as the database has it.
-/

/-- A column whose values are those of a column of a table. -/
structure ForeignKey where
  /-- The name of the table that the column belongs to. -/
  fromTable : String
  column : String
  target : TableId
  targetColumn : String
  onDelete : ReferentialAction
  deriving DecidableEq, Repr

namespace ForeignKey

/-- The clause that names the table and column referred to. -/
def references (key : ForeignKey) (database : Database) : String :=
  "REFERENCES " ++ database.quoteTable key.target ++ " (" ++ database.quote key.targetColumn ++
    ") ON DELETE " ++ key.onDelete.sql

/-- What stands in the column's definition. -/
def inline (key : ForeignKey) (database : Database) : String :=
  if database.inlineReferences then " " ++ key.references database else ""

/-- The name of the constraint. -/
def constraintName (key : ForeignKey) : String :=
  foreignKeyName key.fromTable key.column key.target.table key.targetColumn

/-- The constraint of the table, where the key does not stand in the column. -/
def constraint? (key : ForeignKey) (database : Database) : Option String :=
  if database.inlineReferences then
    none
  else
    some
      ("CONSTRAINT " ++ database.quote key.constraintName ++ " FOREIGN KEY (" ++
        database.quote key.column ++ ") " ++ key.references database)

end ForeignKey

end SchemaScript.Sql
