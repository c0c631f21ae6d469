import SchemaScript.Proofs.Plan

namespace SchemaScript

open Sql TableUnit

/-!
# The tables of a script

A script creates the table of each entity, and a join table for each
many-to-many relationship unless an entity declares that table.  The checks
of the model keep all of them distinct.  Each table and join table has a block
of the script's text.
-/

/-- The join tables of a model that no entity declares. -/
def Model.undeclaredJoinIds (model : Model) : List TableId :=
  (Model.joinIds model.entities).filter fun id => (model.entityOfTable? id).isNone

/-- The undeclared join tables are those that a relationship asks for and no entity has. -/
theorem Model.mem_undeclaredJoinIds
    {model : Model}
    {id : TableId} :
    id ∈ model.undeclaredJoinIds ↔
      (∃ owner ∈ model.entities, ∃ relationship ∈ owner.relationships,
        relationship.isManyToMany = true ∧ Model.joinTableId owner relationship = id) ∧
        ∀ entity ∈ model.entities, entity.tableId ≠ id := by
  rw [undeclaredJoinIds, List.mem_filter, entityOfTable?_isNone_iff]
  simp only [joinIds, joinIdsOf, List.mem_flatMap, List.mem_map, List.mem_filter, and_assoc]

namespace TableUnit

/-- The join tables of a unit are those of the relationships that own one. -/
theorem UnitOf.joinTables_ids
    {model : Model}
    {database : Database}
    {entity : Entity}
    {unit : TableUnit (List Statement)}
    (unitOf : UnitOf model database entity unit) :
    unit.joinTables.map (·.id) =
      (Model.joinIdsOf entity entity.relationships).filter
        fun id => (model.entityOfTable? id).isNone := by
  calc
    unit.joinTables.map (·.id) =
        (joiningRelationships model entity).map (Model.joinTableId entity) :=
      map_eq_of_forall₂ unitOf.joinTables fun _ _ joinOf => joinOf.1
    _ = _ := by
      rw [Model.joinIdsOf, List.filter_map]
      rfl

end TableUnit

namespace Plan.PlanOf

variable {model : Model} {database : Database} {plan : Plan}

/-- The join tables of a plan are those that no entity declares, in another order. -/
theorem joinTables_perm
    (planOf : PlanOf model database plan) :
    plan.joinTables.Perm model.undeclaredJoinIds := by
  obtain ⟨units, related, run⟩ := planOf.units
  have inOrder :
      units.map (fun unit => unit.joinTables.map (·.id)) =
        model.entities.map fun entity =>
          (Model.joinIdsOf entity entity.relationships).filter
            fun id => (model.entityOfTable? id).isNone :=
    map_eq_of_forall₂ related fun _ _ unitOf => unitOf.joinTables_ids
  have everyUnit : plan.units.Perm units := by
    simpa using run.complete
  have everyJoin := everyUnit.flatMap_right fun unit => unit.joinTables.map (·.id)
  rw [List.flatMap_def (l := units), inOrder, ← List.flatMap_def] at everyJoin
  rw [Model.undeclaredJoinIds, Model.joinIds, List.filter_flatMap]
  exact everyJoin

/-- No table of a plan is created twice. -/
theorem tables_nodup
    (planOf : PlanOf model database plan) :
    (plan.tables ++ plan.joinTables).Nodup := by
  rw [List.nodup_append']
  refine ⟨?_, ?_, ?_⟩
  · exact planOf.tables_perm.nodup_iff.mpr planOf.wellFormed.tablesDistinct
  · exact planOf.joinTables_perm.nodup_iff.mpr (planOf.wellFormed.joinsDistinct.filter _)
  · intro id isTable isJoin
    obtain ⟨entity, entityMember, sameTable⟩ :=
      List.mem_map.mp (planOf.tables_perm.mem_iff.mp isTable)
    have undeclared := planOf.joinTables_perm.mem_iff.mp isJoin
    exact (Model.mem_undeclaredJoinIds.mp undeclared).2 entity entityMember sameTable

end Plan.PlanOf

/-! ## Blocks -/

/-- The blocks for the tables of entities, each with its table. -/
def Plan.tableBlocks (plan : Plan) (target : Target) : List (TableId × String) :=
  plan.units.map fun unit => (unit.id, block target unit.body)

/-- The blocks for join tables, each with its table. -/
def Plan.joinBlocks (plan : Plan) (target : Target) : List (TableId × String) :=
  plan.units.flatMap fun unit =>
    unit.joinTables.map fun join => (join.id, block target join.body)

/-- A script creates its namespaces and then its tables, with a given block for each of them. -/
structure Script.HoldsBlocks (script : Script) (target : Target)
    (tableBlocks joinBlocks : List (TableId × String)) : Prop where
  tables : script.tables = tableBlocks.map Prod.fst
  joinTables : script.joinTables = joinBlocks.map Prod.fst
  sql :
    script.sql =
      "\n".intercalate
        (script.namespaces.map (fun name => (Statement.createNamespace name).sql target) ++
          tableBlocks.map Prod.snd ++ joinBlocks.map Prod.snd)

/-- A script holds the blocks of its plan. -/
theorem Script.holdsBlocks_ofPlan
    {modelName : String}
    {target : Target}
    {plan : Plan} :
    (ofPlan modelName target plan).HoldsBlocks target (plan.tableBlocks target)
      (plan.joinBlocks target) where
  tables := by
    simp only [ofPlan, Plan.tables, Plan.tableBlocks, List.map_map, Function.comp_def]
  joinTables := by
    simp only [ofPlan, Plan.joinTables, Plan.joinBlocks, List.map_flatMap, List.map_map,
      Function.comp_def]
  sql := by
    simp only [ofPlan, composeScript, scriptBlocks, Plan.tableBlocks, Plan.joinBlocks,
      List.map_flatMap, List.flatMap_map, List.map_map, Function.comp_def, TableUnit.map]

/-! ## Scripts -/

/--
A script creates the tables of all entities and the join tables of all
many-to-many relationships that no entity declares, each of them once, and no
other table.
-/
theorem generate_tables_once
    {model : Model}
    {target : Target}
    {script : Script}
    (generated : Script.generate model target = .ok script) :
    script.tables.Perm (model.entities.map (·.tableId)) ∧
      (script.tables ++ script.joinTables).Nodup ∧
      ∀ id, id ∈ script.joinTables ↔
        (∃ owner ∈ model.entities, ∃ relationship ∈ owner.relationships,
          relationship.isManyToMany = true ∧ Model.joinTableId owner relationship = id) ∧
          ∀ entity ∈ model.entities, entity.tableId ≠ id := by
  obtain ⟨plan, made, written⟩ := Script.plan_of_generate generated
  have planOf := Plan.planOf_of_ofModel made
  rw [written]
  refine ⟨planOf.tables_perm, planOf.tables_nodup, ?_⟩
  intro id
  rw [← Model.mem_undeclaredJoinIds]
  exact planOf.joinTables_perm.mem_iff

/-- Every entity of a league has its table once. -/
theorem generate_tables_once_leagueModel :
    ∃ script, Script.generate leagueModel Target.standard = .ok script ∧
      script.tables.Perm (leagueModel.entities.map (·.tableId)) ∧
      (script.tables ++ script.joinTables).Nodup ∧
      ∀ id, id ∈ script.joinTables ↔
        (∃ owner ∈ leagueModel.entities, ∃ relationship ∈ owner.relationships,
          relationship.isManyToMany = true ∧ Model.joinTableId owner relationship = id) ∧
          ∀ entity ∈ leagueModel.entities, entity.tableId ≠ id := by
  obtain ⟨script, generated⟩ := exists_generate_leagueModel
  exact ⟨script, generated, generate_tables_once generated⟩

end SchemaScript
