import SchemaScript.Proofs.Sql.Comments
import SchemaScript.Proofs.TableUnit.Assembly
import SchemaScript.Proofs.TableUnit.Indexes

/-!
# Blocks of statements

The statements of a table stand together: the statement that creates it, then
those for its indexes, and then the comments on it and its columns.
-/

namespace SchemaScript.TableUnit

open Sql

/-- A block creates a table, then indexes, and then comments. -/
def BlockOf (table : TableDefinition) (body : List Statement) : Prop :=
  ∃ (indexes : List IndexDefinition) (comments : List String),
    body = .createTable table :: (indexes.map .createIndex ++ comments.map .comment)

/-- A block creates no table but its own. -/
theorem BlockOf.eq_of_createTable
    {table other : TableDefinition}
    {body : List Statement}
    (blockOf : BlockOf table body)
    (member : .createTable other ∈ body) :
    other = table := by
  obtain ⟨indexes, comments, rfl⟩ := blockOf
  simpa using member

/-- The unit of an entity is the block of its table, and waits for what its keys refer to. -/
theorem UnitOf.blockOf
    {model : Model}
    {database : Database}
    {entity : Entity}
    {unit : TableUnit (List Statement)}
    (unitOf : UnitOf model database entity unit) :
    ∃ table, TableOf model database entity table ∧ BlockOf table unit.body ∧
      unit.dependencies = targets table.foreignKeys := by
  obtain ⟨table, indexes, tableOf, _, dependencies, body⟩ := unitOf.table
  exact ⟨table, tableOf, ⟨indexes, _, body⟩, dependencies⟩

/-- A join table has a block with a column for either side. -/
theorem JoinOf.blockOf
    {model : Model}
    {database : Database}
    {owner : Entity}
    {relationship : Relationship}
    {join : JoinTable (List Statement)}
    (joinOf : JoinOf model database owner relationship join) :
    ∃ target columns,
      BlockOf (joinDefinition database join.id relationship columns) join.body ∧
        model.requireEntity relationship.toEntity = .ok target ∧
        List.Forall₂
          (fun side column =>
            joinColumn model database join.id.table relationship side = .ok column)
          (joinSides owner target relationship) columns := by
  obtain ⟨_, target, columns, targetFound, columnsFound, body⟩ := joinOf
  rw [joinStatements_eq] at body
  exact ⟨target, columns, ⟨_, _, body⟩, targetFound, columnsFound⟩

/-- All statements of a block are about one table. -/
structure TableBlock (database : Database) (id : TableId) (body : List Statement) : Prop where
  created : ∃ table, table.id = id ∧ BlockOf table body
  indexed : ∀ index, .createIndex index ∈ body → index.table = id
  commented :
    ∀ text, .comment text ∈ body → CommentOn database (database.quoteTable id) text

/-! ## Comments -/

/-- Comments on columns that wait are about one table. -/
theorem waitsOn_queueColumns
    {database : Database}
    {entity : Entity}
    {table : String}
    {queue : CommentQueue}
    (waitsOn : queue.WaitsOn database table)
    {fields : List Field} :
    (queueColumns database entity queue fields).WaitsOn database table := by
  induction fields generalizing queue with
  | nil =>
      exact waitsOn
  | cons field later inductionHypothesis =>
      exact inductionHypothesis waitsOn.addColumn?

/-- The comments of a unit are about its table. -/
theorem waitsOn_tableComments
    {database : Database}
    {entity : Entity} :
    (tableComments database entity).1.WaitsOn database (database.quoteTable entity.tableId) :=
  (waitsOn_queueColumns CommentQueue.waitsOn_start).addTable?

/-- The comments of a join table are about this table. -/
theorem waitsOn_joinComments
    {database : Database}
    {id : TableId}
    {relationship : Relationship} :
    (joinComments database id relationship).1.WaitsOn database (database.quoteTable id) :=
  CommentQueue.waitsOn_start.addTable?

/-! ## Blocks of units -/

/-- All that a unit does is about its table. -/
theorem UnitOf.tableBlock
    {model : Model}
    {database : Database}
    {entity : Entity}
    {unit : TableUnit (List Statement)}
    (unitOf : UnitOf model database entity unit) :
    TableBlock database unit.id unit.body := by
  obtain ⟨table, indexes, tableOf, indexesFound, _, body⟩ := unitOf.table
  rw [unitOf.id]
  refine {
    created := ⟨table, tableOf.id, indexes, _, body⟩
    indexed := ?_
    commented := ?_ }
  · intro index member
    have inIndexes : index ∈ indexes := by
      simpa [body] using member
    exact table_of_indexesOf indexesFound inIndexes
  · intro text member
    have waits : text ∈ (tableComments database entity).1.statements := by
      simpa [body] using member
    exact (waitsOn_tableComments.statements text waits).2

/-- All that a join table does is about itself. -/
theorem JoinOf.tableBlock
    {model : Model}
    {database : Database}
    {owner : Entity}
    {relationship : Relationship}
    {join : JoinTable (List Statement)}
    (joinOf : JoinOf model database owner relationship join) :
    TableBlock database join.id join.body := by
  obtain ⟨_, _, columns, _, _, body⟩ := joinOf
  rw [joinStatements_eq] at body
  refine {
    created := ⟨joinDefinition database join.id relationship columns, rfl, _, _, body⟩
    indexed := ?_
    commented := ?_ }
  · intro index member
    have inIndexes : index ∈ joinIndexes join.id relationship columns := by
      simpa [body] using member
    simp only [joinIndexes] at inIndexes
    split at inIndexes
    · rw [List.mem_singleton.mp inIndexes]
    · cases inIndexes
  · intro text member
    have waits : text ∈ (joinComments database join.id relationship).1.statements := by
      simpa [body] using member
    exact (waitsOn_joinComments.statements text waits).2

end SchemaScript.TableUnit
