import SchemaScript.Model.ColumnType
import SchemaScript.Sql.Comment
import SchemaScript.Sql.Statement

namespace SchemaScript.TableUnit

open Sql

/-!
# Columns of tables

What the column of a field says: its type, whether it can be empty, its
default, and the foreign key of the relationship that owns it.
-/

/-- What is said about a field: the relationship that owns it comes first, if it says anything. -/
def describe? (entity : Entity) (field : Field) : Option String :=
  ((entity.relationshipFor? field).bind (·.description)).or field.description

/--
The literal of a field's default.  There is none for types that do not allow
it and for times of change, and defaults that the application computes and
numbers that are not finite cannot be written.
-/
def defaultLiteral (database : Database) (field : Field) :
    Except SchemaError (Option String) :=
  match field.defaultValue with
  | none => .ok none
  | some value =>
      if field.dataType.inlinesDefault then
        match value with
        | .null => .ok (some "NULL")
        | .bool truth => .ok (some (database.boolLiteral truth))
        | .int number => .ok (some (toString number.toInt))
        | .float number =>
            if number.isFinite then
              .ok (some (FloatLayout.plain.write number))
            else
              .error
                (.unsupportedDefault field.columnName
                  (FloatLayout.plain.write number ++ " has no SQL literal"))
        | .string text => .ok (some ("'" ++ Database.escapeLiteral text ++ "'"))
        | .insertTime => .ok (some database.currentTimestamp)
        | .updateTime => .ok none
        | .callable name =>
            .error
              (.unsupportedDefault field.columnName
                ("callable default `" ++ name ++ "` is evaluated by the application"))
        | .expression sql => .ok (some sql)
      else
        .ok none

/-- The literal that a column's definition shows: a default that cannot be written is left out. -/
def shownDefault (database : Database) (field : Field) : Except SchemaError (Option String) :=
  match defaultLiteral database field with
  | .ok literal => .ok literal
  | .error (.unsupportedDefault _ _) => .ok none
  | .error error => .error error

/-- What the definition of a column says that the database does not assign. -/
def plainBody (model : Model) (database : Database) (field : Field) :
    Except SchemaError ColumnBody := do
  let sqlType ← model.columnType database field
  let literal ← shownDefault database field
  .ok
    (.plain sqlType (!field.nullable) (field.unique && !field.isPrimaryKey) field.isPrimaryKey
      literal)

/-- What the definition of a field's column says. -/
def columnBody (model : Model) (database : Database) (field : Field) :
    Except SchemaError ColumnBody :=
  match if field.isGeneratedKey then database.generatedKey? field.dataType else none with
  | some clause => .ok (.generated clause)
  | none => plainBody model database field

/--
The foreign key of a field: that of the relationship that owns it, unless the
database does not enforce the relationship.
-/
def foreignKey? (model : Model) (entity : Entity) (field : Field) :
    Except SchemaError (Option ForeignKey) :=
  match entity.relationshipFor? field with
  | none => .ok none
  | some relationship =>
      if relationship.dbConstraint then do
        let target ← model.requireEntity relationship.toEntity
        let targetField ← target.referencedField relationship.targetField?
        .ok
          (some {
            fromTable := entity.tableName
            column := field.columnName
            target := target.tableId
            targetColumn := targetField.columnName
            onDelete := relationship.onDelete })
      else
        .ok none

/-- A field's column without its foreign key; its comment is queued or stands in it. -/
def column (model : Model) (database : Database) (entity : Entity) (queue : CommentQueue)
    (field : Field) : CommentQueue × Except SchemaError Column :=
  let (queued, comment) := queue.addColumn? database field.columnName (describe? entity field)
  (queued,
    match columnBody model database field with
    | .ok body => .ok { name := field.columnName, body, reference := none, comment }
    | .error error => .error error)

end SchemaScript.TableUnit
