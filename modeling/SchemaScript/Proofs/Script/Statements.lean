import SchemaScript.Proofs.Script.Integrity
import SchemaScript.Proofs.Script.Tables
import SchemaScript.Proofs.TableUnit.Indexes

/-!
# The tables and indexes of a plan

A plan's statements come in blocks, one for each table, and no table has two
blocks.  The tables that are created are therefore those of the entities and
the join tables, and no index is created twice.
-/

namespace SchemaScript

open Sql TableUnit

/-- The table that a statement creates. -/
def Sql.Statement.table? : Statement → Option TableDefinition
  | .createTable table => some table
  | _ => none

/-- The index that a statement creates. -/
def Sql.Statement.index? : Statement → Option IndexDefinition
  | .createIndex index => some index
  | _ => none

theorem Sql.Statement.table?_eq_some_iff
    {statement : Statement}
    {table : TableDefinition} :
    statement.table? = some table ↔ statement = .createTable table := by
  cases statement <;> simp [table?]

theorem Sql.Statement.index?_eq_some_iff
    {statement : Statement}
    {index : IndexDefinition} :
    statement.index? = some index ↔ statement = .createIndex index := by
  cases statement <;> simp [index?]

namespace TableUnit

/-- The indexes of a block are those that stand between its table and its comments. -/
theorem filterMap_index?_block
    {table : TableDefinition}
    {indexes : List IndexDefinition}
    {comments : List String} :
    (Statement.createTable table ::
      (indexes.map Statement.createIndex ++ comments.map Statement.comment)).filterMap
        Statement.index? = indexes := by
  have ofIndexes : Statement.index? ∘ Statement.createIndex = some := rfl
  have ofComments : Statement.index? ∘ Statement.comment = fun _ => none := rfl
  simp [List.filterMap_cons, List.filterMap_append, List.filterMap_map, Statement.index?,
    ofIndexes, ofComments]

/-- The indexes of a block are on the table that the block is about. -/
theorem TableBlock.table_of_index
    {database : Database}
    {id : TableId}
    {body : List Statement}
    (tableBlock : TableBlock database id body)
    {index : IndexDefinition}
    (member : index ∈ body.filterMap Statement.index?) :
    index.table = id := by
  obtain ⟨statement, inBody, creates⟩ := List.mem_filterMap.mp member
  rw [Statement.index?_eq_some_iff.mp creates] at inBody
  exact tableBlock.indexed index inBody

/-- The block of an entity creates the indexes of the entity. -/
theorem UnitOf.indexes
    {model : Model}
    {database : Database}
    {entity : Entity}
    {unit : TableUnit (List Statement)}
    (unitOf : UnitOf model database entity unit) :
    indexesOf entity = .ok (unit.body.filterMap Statement.index?) := by
  obtain ⟨_, indexes, _, found, _, body⟩ := unitOf.table
  rw [body, filterMap_index?_block]
  exact found

/-- The block of a join table creates at most the index over its two columns. -/
theorem JoinOf.indexes
    {model : Model}
    {database : Database}
    {owner : Entity}
    {relationship : Relationship}
    {join : JoinTable (List Statement)}
    (joinOf : JoinOf model database owner relationship join) :
    ∃ columns,
      join.body.filterMap Statement.index? = joinIndexes join.id relationship columns := by
  obtain ⟨_, _, columns, _, _, body⟩ := joinOf
  rw [joinStatements_eq] at body
  exact ⟨columns, body ▸ filterMap_index?_block⟩

end TableUnit

namespace Plan

/-- The tables that a plan creates, in the order of their creation. -/
def tableDefinitions (plan : Plan) : List TableDefinition :=
  plan.statements.filterMap Statement.table?

/-- The indexes that a plan creates, in the order of their creation. -/
def indexes (plan : Plan) : List IndexDefinition :=
  plan.statements.filterMap Statement.index?

namespace PlanOf

variable {model : Model} {database : Database} {plan : Plan}

/-! ## Blocks -/

/-- A plan creates its namespaces, the tables of entities, and their join tables. -/
theorem creation_cases
    (planOf : PlanOf model database plan)
    {creation : Creation}
    (member : creation ∈ plan.creations) :
    (∃ name ∈ plan.namespaces, creation = .schema name) ∨
      (∃ entity ∈ model.entities, ∃ unit, UnitOf model database entity unit ∧
        creation = .table unit.id unit.body) ∨
      ∃ owner ∈ model.entities, ∃ relationship ∈ joiningRelationships model owner,
        ∃ join, JoinOf model database owner relationship join ∧
          creation = .table join.id join.body := by
  simp only [creations, List.mem_append, List.mem_map, List.mem_flatMap] at member
  rcases member with (⟨name, nameMember, rfl⟩ | ⟨unit, unitMember, rfl⟩) |
    ⟨unit, unitMember, join, joinMember, rfl⟩
  · exact .inl ⟨name, nameMember, rfl⟩
  · obtain ⟨entity, entityMember, unitOf⟩ := planOf.entity_of_unit unitMember
    exact .inr (.inl ⟨entity, entityMember, unit, unitOf, rfl⟩)
  · obtain ⟨owner, ownerMember, unitOf⟩ := planOf.entity_of_unit unitMember
    obtain ⟨relationship, joins, joinOf⟩ := exists_left_of_forall₂ unitOf.joinTables joinMember
    exact .inr (.inr ⟨owner, ownerMember, relationship, joins, join, joinOf, rfl⟩)

/-- A statement creates a namespace, or stands in the block of an entity or of a join table. -/
theorem statement_cases
    (planOf : PlanOf model database plan)
    {statement : Statement}
    (member : statement ∈ plan.statements) :
    (∃ name ∈ plan.namespaces, statement = .createNamespace name) ∨
      (∃ entity ∈ model.entities, ∃ unit,
        UnitOf model database entity unit ∧ statement ∈ unit.body) ∨
      ∃ owner ∈ model.entities, ∃ relationship ∈ joiningRelationships model owner,
        ∃ join, JoinOf model database owner relationship join ∧ statement ∈ join.body := by
  rw [statements_eq_flatMap] at member
  obtain ⟨creation, created, inCreation⟩ := List.mem_flatMap.mp member
  rcases planOf.creation_cases created with
    ⟨name, nameMember, rfl⟩ | ⟨entity, entityMember, unit, unitOf, rfl⟩ |
    ⟨owner, ownerMember, relationship, joins, join, joinOf, rfl⟩
  · exact .inl ⟨name, nameMember, List.mem_singleton.mp inCreation⟩
  · exact .inr (.inl ⟨entity, entityMember, unit, unitOf, inCreation⟩)
  · exact .inr (.inr ⟨owner, ownerMember, relationship, joins, join, joinOf, inCreation⟩)

/-- What is created are the namespaces, the tables of entities, and the join tables. -/
theorem map_object_creations :
    plan.creations.map Creation.object =
      plan.namespaces.map .inl ++ (plan.tables ++ plan.joinTables).map .inr := by
  simp only [creations, tables, joinTables, List.map_append, List.map_map, List.map_flatMap,
    List.append_assoc]
  rfl

/-- Nothing is created twice. -/
theorem creations_distinct
    (made : ofModel model database = .ok plan) :
    (plan.creations.map Creation.object).Nodup := by
  have namespacesDistinct : plan.namespaces.Nodup := by
    rw [namespaces_eq made]
    exact nodup_meetNamespaces List.nodup_nil
  rw [map_object_creations, List.nodup_append']
  refine
    ⟨namespacesDistinct.map fun _ _ => Sum.inl.inj,
      (planOf_of_ofModel made).tables_nodup.map fun _ _ => Sum.inr.inj, ?_⟩
  intro object isNamespace isTable
  obtain ⟨_, _, rfl⟩ := List.mem_map.mp isNamespace
  obtain ⟨_, _, same⟩ := List.mem_map.mp isTable
  cases same

/-! ## Tables -/

/-- The tables of a plan are those that its statements create. -/
theorem mem_tableDefinitions_iff
    {table : TableDefinition} :
    table ∈ plan.tableDefinitions ↔ .createTable table ∈ plan.statements := by
  simp [tableDefinitions, List.mem_filterMap, Statement.table?_eq_some_iff]

/-- A table that a plan creates is that of an entity or that of a relationship. -/
theorem tableDefinition_cases
    (planOf : PlanOf model database plan)
    {table : TableDefinition}
    (member : table ∈ plan.tableDefinitions) :
    (∃ entity ∈ model.entities, TableOf model database entity table) ∨
      ∃ owner ∈ model.entities, ∃ relationship ∈ joiningRelationships model owner,
        ∃ join, JoinOf model database owner relationship join ∧ BlockOf table join.body := by
  rcases planOf.statement_cases (mem_tableDefinitions_iff.mp member) with
    ⟨_, _, isNamespace⟩ | ⟨entity, entityMember, unit, unitOf, inUnit⟩ |
    ⟨owner, ownerMember, relationship, joins, join, joinOf, inJoin⟩
  · cases isNamespace
  · obtain ⟨_, tableOf, blockOf, _⟩ := unitOf.blockOf
    rw [blockOf.eq_of_createTable inUnit]
    exact .inl ⟨entity, entityMember, tableOf⟩
  · obtain ⟨_, _, blockOf, _⟩ := joinOf.blockOf
    rw [blockOf.eq_of_createTable inJoin]
    exact .inr ⟨owner, ownerMember, relationship, joins, join, joinOf, blockOf⟩

/-- The table of every entity is created. -/
theorem exists_tableOf
    (planOf : PlanOf model database plan)
    {entity : Entity}
    (member : entity ∈ model.entities) :
    ∃ table ∈ plan.tableDefinitions, TableOf model database entity table := by
  obtain ⟨unit, unitMember, unitOf⟩ := planOf.unit_of_entity member
  obtain ⟨table, tableOf, ⟨indexes, comments, body⟩, _⟩ := unitOf.blockOf
  refine ⟨table, mem_tableDefinitions_iff.mpr ?_, tableOf⟩
  apply List.mem_append_left
  apply List.mem_append_right
  exact List.mem_flatMap.mpr ⟨unit, unitMember, by simp [body]⟩

/-- The join table of every relationship that has one of its own is created. -/
theorem exists_joinOf
    (planOf : PlanOf model database plan)
    {owner : Entity}
    (member : owner ∈ model.entities)
    {relationship : Relationship}
    (joins : relationship ∈ joiningRelationships model owner) :
    ∃ table ∈ plan.tableDefinitions, ∃ join,
      JoinOf model database owner relationship join ∧ BlockOf table join.body := by
  obtain ⟨unit, unitMember, unitOf⟩ := planOf.unit_of_entity member
  obtain ⟨join, joinMember, joinOf⟩ := exists_right_of_forall₂ unitOf.joinTables joins
  obtain ⟨_, columns, ⟨indexes, comments, body⟩, _⟩ := joinOf.blockOf
  refine ⟨_, mem_tableDefinitions_iff.mpr ?_, join, joinOf, indexes, comments, body⟩
  apply List.mem_append_right
  exact List.mem_flatMap.mpr
    ⟨unit, unitMember, List.mem_flatMap.mpr ⟨join, joinMember, by simp [body]⟩⟩

end PlanOf

end Plan

/-- A script is written for a model that has a plan, and what is found of the plan holds of it. -/
theorem Script.exists_of_plan
    {model : Model}
    {target : Target}
    {property : Plan → Prop}
    (found : ∃ plan ∈ (Plan.ofModel model target.database).toOption, property plan) :
    ∃ script plan, Script.generate model target = .ok script ∧
      Plan.ofModel model target.database = .ok plan ∧ property plan := by
  obtain ⟨plan, member, holds⟩ := found
  have made : Plan.ofModel model target.database = .ok plan := by
    cases outcome : Plan.ofModel model target.database with
    | ok other =>
        rw [outcome] at member
        cases member
        rfl
    | error error =>
        rw [outcome] at member
        cases member
  refine ⟨Script.ofPlan model.info.name target plan, plan, ?_, made, holds⟩
  rw [Script.generate, made]

end SchemaScript
