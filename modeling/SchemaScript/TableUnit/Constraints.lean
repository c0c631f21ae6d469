import SchemaScript.Model
import SchemaScript.Sql.Statement

namespace SchemaScript.TableUnit

open Sql

/-!
# Unique constraints and indexes of tables

Unique groups become constraints of the table; indexed fields and declared
indexes become statements, of which the same one is not written twice.
-/

/-- The columns that some names find; there has to be one. -/
def resolveColumns (entity : Entity) (names : List String) (what : String) :
    Except SchemaError (List String) :=
  if names.isEmpty then
    .error (.invalidEntity entity.name (what ++ " must list at least one column"))
  else
    collect (fun name => (·.columnName) <$> entity.resolveField name) names

/-- The constraint of a unique group. -/
def uniqueConstraint (entity : Entity) (group : UniqueGroup) :
    Except SchemaError UniqueConstraint :=
  match resolveColumns entity group.fields "unique group" with
  | .ok columns => .ok { name := indexName "uid" entity.tableName columns, columns }
  | .error error => .error error

/-- The constraints of an entity's unique groups. -/
def uniqueConstraintsOf (entity : Entity) : Except SchemaError (List UniqueConstraint) :=
  collect (uniqueConstraint entity) entity.uniqueTogether

/-- The index of an indexed field. -/
def fieldIndex (entity : Entity) (field : Field) : IndexDefinition where
  name := indexName "idx" entity.tableName [field.columnName]
  table := entity.tableId
  columns := [field.columnName]
  unique := false

/-- A declared index. -/
def declaredIndex (entity : Entity) (index : Index) : Except SchemaError IndexDefinition :=
  match resolveColumns entity index.fields "index" with
  | .ok columns =>
      let kind := if index.unique then "uidx" else "idx"
      .ok {
        name := index.name.getD (indexName kind entity.tableName columns)
        table := entity.tableId
        columns
        unique := index.unique }
  | .error error => .error error

/-- The indexes of an entity: those of its fields, then those declared, each once. -/
def indexesOf (entity : Entity) : Except SchemaError (List IndexDefinition) :=
  match collect (declaredIndex entity) entity.indexes with
  | .ok declared => .ok ((entity.indexedFields.map (fieldIndex entity)) ++ declared).eraseDups
  | .error error => .error error

end SchemaScript.TableUnit
