import SchemaScript.Model.ColumnType
import SchemaScript.Model.Validation
import SchemaScript.Sql.Comment
import SchemaScript.Sql.Statement
import SchemaScript.TableUnit

namespace SchemaScript.TableUnit

open Sql

/-!
# Join tables

The table that a many-to-many relationship owns: a column for each side that
has the type of that side's primary key and refers to it.
-/

/-- A side of a join table: its column and the entity that the column stands for. -/
structure JoinSide where
  column : String
  entity : Entity

/-- The column of a side. -/
def joinColumn (model : Model) (database : Database) (table : String)
    (relationship : Relationship) (side : JoinSide) : Except SchemaError Column := do
  let sqlType ← model.primaryKeyType database side.entity
  let key ← side.entity.referencedField none
  let reference : ForeignKey :=
    { fromTable := table
      column := side.column
      target := side.entity.tableId
      targetColumn := key.columnName
      onDelete := relationship.onDelete }
  .ok {
    name := side.column
    body := .plain sqlType true false false none
    reference := if relationship.dbConstraint then some reference else none
    comment := "" }

/-- The sides of a join table: the owner's first. -/
def joinSides (owner target : Entity) (relationship : Relationship) : List JoinSide :=
  [{ column := relationship.backwardKeyFor owner.tableName, entity := owner },
   { column := relationship.forwardKeyName, entity := target }]

/-- The statements for a join table with the given columns. -/
def joinStatements (database : Database) (id : TableId) (relationship : Relationship)
    (columns : List Column) : List Statement :=
  let start := CommentQueue.start (database.quoteTable id) database.commentStyle
  let (queue, comment) := start.addTable? database relationship.description
  let names := columns.map (·.name)
  let pairs : IndexDefinition :=
    { name := indexName "uidx" id.table names, table := id, columns := names, unique := true }
  [.createTable { id, columns, uniques := [], comment }] ++
    (if relationship.uniquePairs then [.createIndex pairs] else []) ++
    queue.statements.map .comment

/--
The join table of an entity's relationship; nothing when an entity declares
the table itself.
-/
def joinTable? (model : Model) (database : Database) (owner : Entity)
    (relationship : Relationship) :
    Except SchemaError (Option (JoinTable (List Statement))) :=
  let id := Model.joinTableId owner relationship
  if (model.entityOfTable? id).isSome then
    .ok none
  else do
    let target ← model.requireEntity relationship.toEntity
    let columns ←
      collect (joinColumn model database id.table relationship)
        (joinSides owner target relationship)
    .ok (some { id, body := joinStatements database id relationship columns })

/-- The join tables of an entity's relationships. -/
def joinTablesOf (model : Model) (database : Database) (owner : Entity) :
    Except SchemaError (List (JoinTable (List Statement))) :=
  match collect (joinTable? model database owner) owner.manyToMany with
  | .ok found => .ok (found.filterMap fun join? => join?)
  | .error error => .error error

end SchemaScript.TableUnit
