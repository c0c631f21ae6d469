import SchemaScript.TableUnit.Assembly
import SchemaScript.Proofs.Model.WellFormed

/-!
# Assembled table units

What a unit says once it has been assembled: each column belongs to a field,
the tables listed as dependencies are those of the foreign keys, a block
creates its table first, and the join tables are those that no entity
declares.
-/

namespace SchemaScript.TableId

/-- Texts that compare as equal are the same. -/
theorem eq_of_compareText_eq
    {left right : String}
    (same : compareText left right = .eq) :
    left = right := by
  simp only [compareText] at same
  split at same
  · cases same
  · split at same
    · assumption
    · cases same

/-- Tables that compare as equal are the same. -/
theorem eq_of_compare_eq
    {left right : TableId}
    (same : left.compare right = .eq) :
    left = right := by
  rcases left with ⟨_ | leftName, leftTable⟩ <;> rcases right with ⟨_ | rightName, rightTable⟩
  · simp only [compare] at same
    rw [eq_of_compareText_eq same]
  · cases same
  · cases same
  · simp only [compare, Ordering.then_eq_eq] at same
    rw [eq_of_compareText_eq same.1, eq_of_compareText_eq same.2]

/-- Inserting a table into a list adds this table only. -/
theorem mem_insert
    {id other : TableId}
    {ids : List TableId} :
    other ∈ insert id ids ↔ other = id ∨ other ∈ ids := by
  induction ids with
  | nil =>
      simp [insert]
  | cons first rest inductionHypothesis =>
      simp only [insert]
      split
      · simp
      · next same =>
          rw [eq_of_compare_eq same]
          simp
      · simp only [List.mem_cons, inductionHypothesis]
        exact or_left_comm

end SchemaScript.TableId

namespace SchemaScript.TableUnit

open Sql

/-! ## Dependencies -/

/-- The dependencies of a table are the tables that its foreign keys refer to. -/
theorem mem_targets
    {keys : List ForeignKey}
    {id : TableId} :
    id ∈ targets keys ↔ ∃ key ∈ keys, key.target = id := by
  have gathered
      (known : List TableId) :
      id ∈ keys.foldl (fun ids key => TableId.insert key.target ids) known ↔
        id ∈ known ∨ ∃ key ∈ keys, key.target = id := by
    induction keys generalizing known with
    | nil =>
        simp
    | cons key later inductionHypothesis =>
        simp only [List.foldl_cons, inductionHypothesis, TableId.mem_insert, List.mem_cons,
          exists_eq_or_imp]
        rw [eq_comm (a := id), or_assoc, or_left_comm]
  simpa [targets] using gathered []

/-! ## Columns -/

/-- The comments of a table before anything was said about it. -/
def noComments (database : Database) (id : TableId) : CommentQueue :=
  .start (database.quoteTable id) database.commentStyle

/-- The comments that wait after those on the columns of some fields. -/
def queueColumns (database : Database) (entity : Entity) (queue : CommentQueue)
    (fields : List Field) : CommentQueue :=
  fields.foldl
    (fun queue field => (queue.addColumn? database field.columnName (describe? entity field)).1)
    queue

/-- The foreign key that a field's column shows, if any. -/
def shownReference (model : Model) (entity : Entity) (field : Field) :
    Except SchemaError (Option ForeignKey) :=
  if field.isReference then foreignKey? model entity field else .ok none

/-- The comment that stands in the definition of a field's column. -/
def shownComment (database : Database) (entity : Entity) (field : Field) : String :=
  ((noComments database entity.tableId).addColumn? database field.columnName
    (describe? entity field)).2

/-- A column is that of a field of an entity. -/
structure ColumnOf (model : Model) (database : Database) (entity : Entity) (field : Field)
    (column : Column) : Prop where
  name : column.name = field.columnName
  body : columnBody model database field = .ok column.body
  reference : shownReference model entity field = .ok column.reference
  comment : column.comment = shownComment database entity field

/-- A column says that the database assigns its values, or its type and what goes with it. -/
theorem columnBody_cases
    {model : Model}
    {database : Database}
    {field : Field}
    {body : ColumnBody}
    (found : columnBody model database field = .ok body) :
    (∃ clause, field.isGeneratedKey = true ∧ database.generatedKey? field.dataType = some clause ∧
        body = .generated clause) ∨
      ∃ sqlType literal?, model.columnType database field = .ok sqlType ∧
        shownDefault database field = .ok literal? ∧
        body =
          .plain sqlType (!field.nullable) (field.unique && !field.isPrimaryKey)
            field.isPrimaryKey literal? := by
  simp only [columnBody] at found
  split at found
  · next clause assigned =>
      rw [Option.ite_none_right_eq_some] at assigned
      cases found
      exact .inl ⟨clause, assigned.1, assigned.2, rfl⟩
  · simp only [plainBody, bind_eq_ok_iff] at found
    obtain ⟨sqlType, typed, literal?, shown, same⟩ := found
    cases same
    exact .inr ⟨sqlType, literal?, typed, shown, rfl⟩

/-- A comment on a column leaves the style of the comments as it is. -/
theorem addColumn?_style
    {queue : CommentQueue}
    {database : Database}
    {column : String}
    {text : Option String} :
    (queue.addColumn? database column text).1.style = queue.style := by
  cases text with
  | none =>
      rfl
  | some text =>
      simp only [CommentQueue.addColumn?, CommentQueue.addColumn, CommentQueue.enqueue]
      split
      · rfl
      · split
        · split <;> rfl
        · rfl
        · rfl

/-- What stands in a column's definition depends on the style of the comments only. -/
theorem addColumn?_fragment
    {queue other : CommentQueue}
    {database : Database}
    {column : String}
    {text : Option String}
    (sameStyle : queue.style = other.style) :
    (queue.addColumn? database column text).2 =
      (other.addColumn? database column text).2 := by
  cases text with
  | none =>
      rfl
  | some text =>
      simp only [CommentQueue.addColumn?, CommentQueue.addColumn, sameStyle]
      split
      · rfl
      · split <;> rfl

/-- The column of one field, and the comments that wait with it. -/
theorem referencingColumn_eq_ok_iff
    {model : Model}
    {database : Database}
    {entity : Entity}
    {queue queued : CommentQueue}
    {field : Field}
    {found : Column}
    (style : queue.style = database.commentStyle) :
    referencingColumn model database entity queue field = .ok (found, queued) ↔
      ColumnOf model database entity field found ∧
        queued = (queue.addColumn? database field.columnName (describe? entity field)).1 := by
  have fragment :
      (queue.addColumn? database field.columnName (describe? entity field)).2 =
        shownComment database entity field :=
    addColumn?_fragment style
  have parts :
      referencingColumn model database entity queue field = .ok (found, queued) ↔
        ∃ body, columnBody model database field = .ok body ∧
          ∃ reference, shownReference model entity field = .ok reference ∧
            found =
              { name := field.columnName
                body
                reference
                comment := shownComment database entity field } ∧
            queued =
              (queue.addColumn? database field.columnName (describe? entity field)).1 := by
    simp only [referencingColumn, column, shownReference, fragment]
    cases columnBody model database field with
    | error error =>
        simp
    | ok body =>
        by_cases refers : field.isReference
        · cases foreignKey? model entity field <;> simp [refers, eq_comm]
        · simp [refers, eq_comm]
  rw [parts]
  constructor
  · rintro ⟨body, bodyFound, reference, referenceFound, rfl, rfl⟩
    exact ⟨⟨rfl, bodyFound, referenceFound, rfl⟩, rfl⟩
  · rintro ⟨⟨name, body, reference, comment⟩, rfl⟩
    refine ⟨found.body, body, found.reference, reference, ?_, rfl⟩
    rw [← name, ← comment]

/-- The columns of some fields, one for each, and the comments that wait with them. -/
theorem columnsOf_eq_ok_iff
    {model : Model}
    {database : Database}
    {entity : Entity}
    {queue complete : CommentQueue}
    {fields : List Field}
    {columns : List Column}
    (style : queue.style = database.commentStyle) :
    columnsOf model database entity queue fields = .ok (columns, complete) ↔
      List.Forall₂ (ColumnOf model database entity) fields columns ∧
        complete = queueColumns database entity queue fields := by
  induction fields generalizing queue columns with
  | nil =>
      cases columns <;> simp [columnsOf, queueColumns, eq_comm]
  | cons field later inductionHypothesis =>
      have split :
          columnsOf model database entity queue (field :: later) = .ok (columns, complete) ↔
            ∃ first queued rest,
              referencingColumn model database entity queue field = .ok (first, queued) ∧
                columnsOf model database entity queued later = .ok (rest, complete) ∧
                columns = first :: rest := by
        simp only [columnsOf]
        cases referencingColumn model database entity queue field with
        | error error =>
            simp
        | ok result =>
            obtain ⟨first, queued⟩ := result
            cases laterColumns : columnsOf model database entity queued later with
            | error error =>
                simp [laterColumns]
            | ok result =>
                obtain ⟨rest, last⟩ := result
                simp only [laterColumns, Except.ok.injEq, Prod.mk.injEq]
                constructor
                · rintro ⟨rfl, rfl⟩
                  exact ⟨first, queued, rest, ⟨rfl, rfl⟩, laterColumns, rfl⟩
                · rintro ⟨_, _, others, ⟨rfl, rfl⟩, found, rfl⟩
                  rw [laterColumns] at found
                  cases found
                  exact ⟨rfl, rfl⟩
      rw [split]
      constructor
      · rintro ⟨first, queued, rest, firstFound, restFound, rfl⟩
        obtain ⟨columnOf, rfl⟩ := (referencingColumn_eq_ok_iff style).mp firstFound
        obtain ⟨related, rfl⟩ :=
          (inductionHypothesis (addColumn?_style.trans style)).mp restFound
        exact ⟨.cons columnOf related, rfl⟩
      · rintro ⟨related, rfl⟩
        obtain ⟨first, rest, columnOf, restRelated, rfl⟩ :=
          List.forall₂_cons_left_iff.mp related
        exact
          ⟨first, _, rest, (referencingColumn_eq_ok_iff style).mpr ⟨columnOf, rfl⟩,
            (inductionHypothesis (addColumn?_style.trans style)).mpr ⟨restRelated, rfl⟩, rfl⟩

/-! ## Join tables -/

/-- An entity declares a table exactly when the table is found among those of the model. -/
theorem entityOfTable?_isNone_iff
    {model : Model}
    {id : TableId} :
    (model.entityOfTable? id).isNone = true ↔
      ∀ entity ∈ model.entities, entity.tableId ≠ id := by
  simp [Model.entityOfTable?]

/-- The relationships of an entity that own a join table which no entity declares. -/
def joiningRelationships (model : Model) (owner : Entity) : List Relationship :=
  owner.manyToMany.filter fun relationship =>
    (model.entityOfTable? (Model.joinTableId owner relationship)).isNone

/-- A join table is that of a relationship of an entity. -/
def JoinOf (model : Model) (database : Database) (owner : Entity) (relationship : Relationship)
    (join : JoinTable (List Statement)) : Prop :=
  join.id = Model.joinTableId owner relationship ∧
    ∃ target columns,
      model.requireEntity relationship.toEntity = .ok target ∧
        List.Forall₂
          (fun side column =>
            joinColumn model database join.id.table relationship side = .ok column)
          (joinSides owner target relationship) columns ∧
        join.body = joinStatements database join.id relationship columns

/-- The comments on a join table: those that wait, and what stands in the definition. -/
def joinComments (database : Database) (id : TableId) (relationship : Relationship) :
    CommentQueue × String :=
  (noComments database id).addTable? database relationship.description

/-- The table that is created for a join table with the given columns. -/
def joinDefinition (database : Database) (id : TableId) (relationship : Relationship)
    (columns : List Column) : TableDefinition where
  id := id
  columns := columns
  uniques := []
  comment := (joinComments database id relationship).2

/-- The indexes of a join table: one over both columns if its pairs are unique. -/
def joinIndexes (id : TableId) (relationship : Relationship) (columns : List Column) :
    List IndexDefinition :=
  if relationship.uniquePairs then
    [{ name := indexName "uidx" id.table (columns.map (·.name))
       table := id
       columns := columns.map (·.name)
       unique := true }]
  else
    []

/-- A join table is created first, then its indexes, then its comments. -/
theorem joinStatements_eq
    {database : Database}
    {id : TableId}
    {relationship : Relationship}
    {columns : List Column} :
    joinStatements database id relationship columns =
      .createTable (joinDefinition database id relationship columns) ::
        ((joinIndexes id relationship columns).map .createIndex ++
          (joinComments database id relationship).1.statements.map .comment) := by
  simp only [joinStatements, joinIndexes, joinDefinition, joinComments, noComments,
    List.cons_append]
  split <;> rfl

/-- A relationship has a join table of its own unless an entity declares it. -/
theorem joinTable?_eq_ok_iff
    {model : Model}
    {database : Database}
    {owner : Entity}
    {relationship : Relationship}
    {join? : Option (JoinTable (List Statement))} :
    joinTable? model database owner relationship = .ok join? ↔
      if (model.entityOfTable? (Model.joinTableId owner relationship)).isNone then
        ∃ join, JoinOf model database owner relationship join ∧ join? = some join
      else
        join? = none := by
  simp only [joinTable?]
  cases model.entityOfTable? (Model.joinTableId owner relationship) with
  | some declared =>
      simp [eq_comm]
  | none =>
      simp only [Option.isSome_none, Bool.false_eq_true, if_false, bind_eq_ok_iff,
        collect_eq_ok_iff, Option.isNone_none, if_true, JoinOf]
      constructor
      · rintro ⟨target, targetFound, columns, columnsFound, same⟩
        cases same
        exact ⟨_, ⟨rfl, target, columns, targetFound, columnsFound, rfl⟩, rfl⟩
      · rintro ⟨⟨id, body⟩, ⟨sameId, target, columns, targetFound, columnsFound, sameBody⟩, rfl⟩
        simp only at sameId columnsFound sameBody
        subst sameId sameBody
        exact ⟨target, targetFound, columns, columnsFound, rfl⟩

/-- The join tables of an entity, one for each of its relationships that own one. -/
theorem joinTablesOf_eq_ok_iff
    {model : Model}
    {database : Database}
    {owner : Entity}
    {joins : List (JoinTable (List Statement))} :
    joinTablesOf model database owner = .ok joins ↔
      List.Forall₂ (JoinOf model database owner) (joiningRelationships model owner) joins := by
  have gathered
      (relationships : List Relationship)
      (joins : List (JoinTable (List Statement))) :
      (∃ found,
          List.Forall₂ (fun relationship join? =>
            joinTable? model database owner relationship = .ok join?) relationships found ∧
          found.filterMap (fun join? => join?) = joins) ↔
        List.Forall₂ (JoinOf model database owner)
          (relationships.filter fun relationship =>
            (model.entityOfTable? (Model.joinTableId owner relationship)).isNone)
          joins := by
    induction relationships generalizing joins with
    | nil =>
        simp [eq_comm]
    | cons relationship later inductionHypothesis =>
        have head
            (join? : Option (JoinTable (List Statement))) :=
          @joinTable?_eq_ok_iff model database owner relationship join?
        by_cases undeclared :
            (model.entityOfTable? (Model.joinTableId owner relationship)).isNone
        · simp only [undeclared, if_true] at head
          rw [List.filter_cons_of_pos (by exact undeclared)]
          simp only [List.forall₂_cons_left_iff, ← inductionHypothesis, head]
          constructor
          · rintro ⟨_, ⟨_, rest, ⟨join, joinOf, rfl⟩, restFound, rfl⟩, rfl⟩
            exact ⟨join, _, joinOf, ⟨rest, restFound, rfl⟩, rfl⟩
          · rintro ⟨join, _, joinOf, ⟨rest, restFound, rfl⟩, rfl⟩
            exact ⟨some join :: rest, ⟨_, rest, ⟨join, joinOf, rfl⟩, restFound, rfl⟩, rfl⟩
        · simp only [undeclared, Bool.false_eq_true, if_false] at head
          rw [List.filter_cons_of_neg (by exact undeclared)]
          simp only [List.forall₂_cons_left_iff, ← inductionHypothesis, head]
          constructor
          · rintro ⟨_, ⟨_, rest, rfl, restFound, rfl⟩, rfl⟩
            exact ⟨rest, restFound, rfl⟩
          · rintro ⟨rest, restFound, rfl⟩
            exact ⟨none :: rest, ⟨_, rest, rfl, restFound, rfl⟩, rfl⟩
  rw [joiningRelationships, ← gathered]
  simp only [joinTablesOf, ← collect_eq_ok_iff]
  cases collect (joinTable? model database owner) owner.manyToMany <;> simp

/-! ## Units -/

/-- The comments on a table and its columns: those that wait, and what stands in the definition. -/
def tableComments (database : Database) (entity : Entity) : CommentQueue × String :=
  (queueColumns database entity (noComments database entity.tableId) entity.fields).addTable?
    database entity.description

/-- A table is that of an entity. -/
structure TableOf (model : Model) (database : Database) (entity : Entity)
    (table : TableDefinition) : Prop where
  id : table.id = entity.tableId
  columns : List.Forall₂ (ColumnOf model database entity) entity.fields table.columns
  uniques : uniqueConstraintsOf entity = .ok table.uniques
  comment : table.comment = (tableComments database entity).2

/-- A unit is that of an entity. -/
structure UnitOf (model : Model) (database : Database) (entity : Entity)
    (unit : TableUnit (List Statement)) : Prop where
  id : unit.id = entity.tableId
  joinTables :
    List.Forall₂ (JoinOf model database entity) (joiningRelationships model entity)
      unit.joinTables
  table :
    ∃ table indexes,
      TableOf model database entity table ∧
        indexesOf entity = .ok indexes ∧
        unit.dependencies = targets table.foreignKeys ∧
        unit.body =
          .createTable table ::
            (indexes.map .createIndex ++
              (tableComments database entity).1.statements.map .comment)

/-- The foreign keys of an entity's table are those of its fields, in their order. -/
theorem TableOf.foreignKeys_eq_filterMap
    {model : Model}
    {database : Database}
    {entity : Entity}
    {table : TableDefinition}
    (tableOf : TableOf model database entity table) :
    table.foreignKeys =
      entity.fields.filterMap fun field => (shownReference model entity field).toOption.join := by
  have inOrder :
      table.columns.map (·.reference) =
        entity.fields.map fun field => (shownReference model entity field).toOption.join := by
    apply map_eq_of_forall₂ tableOf.columns
    intro field column columnOf
    rw [columnOf.reference]
    rfl
  calc
    table.foreignKeys = (table.columns.map (·.reference)).filterMap (fun key? => key?) := by
      rw [List.filterMap_map]
      rfl
    _ = _ := by
      rw [inOrder, List.filterMap_map]
      rfl

/-- The foreign keys of an entity's table are those that the columns of its fields show. -/
theorem TableOf.mem_foreignKeys_iff
    {model : Model}
    {database : Database}
    {entity : Entity}
    {table : TableDefinition}
    (tableOf : TableOf model database entity table)
    {key : ForeignKey} :
    key ∈ table.foreignKeys ↔
      ∃ field ∈ entity.fields, shownReference model entity field = .ok (some key) := by
  rw [tableOf.foreignKeys_eq_filterMap, List.mem_filterMap]
  refine exists_congr fun field => and_congr_right fun _ => ?_
  cases shownReference model entity field with
  | ok key? =>
      simp [Except.toOption]
  | error error =>
      simp [Except.toOption]

/-- A table depends on those that the columns of its entity's fields refer to. -/
theorem UnitOf.mem_dependencies_iff
    {model : Model}
    {database : Database}
    {entity : Entity}
    {unit : TableUnit (List Statement)}
    (unitOf : UnitOf model database entity unit)
    {target : TableId} :
    target ∈ unit.dependencies ↔
      ∃ field ∈ entity.fields, ∃ key,
        shownReference model entity field = .ok (some key) ∧ key.target = target := by
  obtain ⟨table, _, tableOf, _, dependencies, _⟩ := unitOf.table
  rw [dependencies, mem_targets]
  constructor
  · intro ⟨key, keyMember, same⟩
    obtain ⟨field, fieldMember, shown⟩ := tableOf.mem_foreignKeys_iff.mp keyMember
    exact ⟨field, fieldMember, key, shown, same⟩
  · intro ⟨field, fieldMember, key, shown, same⟩
    exact ⟨key, tableOf.mem_foreignKeys_iff.mpr ⟨field, fieldMember, shown⟩, same⟩

/-- Assembling gives the unit of the entity. -/
theorem ofEntity_eq_ok_iff
    {model : Model}
    {database : Database}
    {entity : Entity}
    {unit : TableUnit (List Statement)} :
    ofEntity model database entity = .ok unit ↔ UnitOf model database entity unit := by
  have columnsFound
      (columns : List Column)
      (complete : CommentQueue) :
      columnsOf model database entity
          (.start (database.quoteTable entity.tableId) database.commentStyle) entity.fields =
        .ok (columns, complete) ↔
      List.Forall₂ (ColumnOf model database entity) entity.fields columns ∧
        complete =
          queueColumns database entity (noComments database entity.tableId) entity.fields :=
    columnsOf_eq_ok_iff rfl
  simp only [ofEntity, bind_eq_ok_iff, Prod.exists, columnsFound, joinTablesOf_eq_ok_iff]
  constructor
  · rintro
      ⟨columns, _, ⟨columnsOf, rfl⟩, uniques, uniquesFound, indexes, indexesFound, joins,
        joinsFound, same⟩
    cases same
    exact {
      id := rfl
      joinTables := joinsFound
      table := ⟨_, indexes, ⟨rfl, columnsOf, uniquesFound, rfl⟩, indexesFound, rfl, rfl⟩ }
  · rcases unit with ⟨id, body, dependencies, joins⟩
    rintro ⟨sameId, joinsFound, table, indexes, tableOf, indexesFound, sameDependencies, sameBody⟩
    obtain ⟨tableId, columns, uniques, comment⟩ := table
    obtain ⟨sameTableId, columnsOf, uniquesFound, sameComment⟩ := tableOf
    simp only at sameId joinsFound sameDependencies sameBody sameTableId sameComment
    subst sameId sameDependencies sameBody sameTableId sameComment
    exact
      ⟨columns, _, ⟨columnsOf, rfl⟩, uniques, uniquesFound, indexes, indexesFound, joins,
        joinsFound, rfl⟩

end SchemaScript.TableUnit
