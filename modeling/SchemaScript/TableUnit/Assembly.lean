import SchemaScript.TableUnit.Columns
import SchemaScript.TableUnit.Constraints
import SchemaScript.TableUnit.Junction

namespace SchemaScript.TableUnit

open Sql

/-!
# Assembling table units

The unit of an entity: the statement that creates its table, its indexes and
comments, the tables that its foreign keys refer to, and its join tables.
-/

/-- A field's column with its foreign key, and the comments queued by then. -/
def referencingColumn (model : Model) (database : Database) (entity : Entity)
    (queue : CommentQueue) (field : Field) : Except SchemaError (Column × CommentQueue) :=
  match column model database entity queue field with
  | (queued, .ok plain) =>
      if field.isReference then
        match foreignKey? model entity field with
        | .ok reference => .ok ({ plain with reference }, queued)
        | .error error => .error error
      else
        .ok (plain, queued)
  | (_, .error error) => .error error

/-- The columns of some fields, and the comments queued with them. -/
def columnsOf (model : Model) (database : Database) (entity : Entity) (queue : CommentQueue) :
    List Field → Except SchemaError (List Column × CommentQueue)
  | [] => .ok ([], queue)
  | field :: later =>
      match referencingColumn model database entity queue field with
      | .ok (first, queued) =>
          match columnsOf model database entity queued later with
          | .ok (rest, complete) => .ok (first :: rest, complete)
          | .error error => .error error
      | .error error => .error error

/-- The tables that some foreign keys refer to, in ascending order and each once. -/
def targets (keys : List ForeignKey) : List TableId :=
  keys.foldl (fun ids key => TableId.insert key.target ids) []

/-- The unit of an entity. -/
def ofEntity (model : Model) (database : Database) (entity : Entity) :
    Except SchemaError (TableUnit (List Statement)) := do
  let start := CommentQueue.start (database.quoteTable entity.tableId) database.commentStyle
  let (columns, commented) ← columnsOf model database entity start entity.fields
  let uniques ← uniqueConstraintsOf entity
  let indexes ← indexesOf entity
  let (queue, comment) := commented.addTable? database entity.description
  let joins ← joinTablesOf model database entity
  let table : TableDefinition := { id := entity.tableId, columns, uniques, comment }
  .ok {
    id := entity.tableId
    body :=
      [Statement.createTable table] ++ indexes.map .createIndex ++
        queue.statements.map .comment
    dependencies := targets table.foreignKeys
    joinTables := joins }

end SchemaScript.TableUnit
