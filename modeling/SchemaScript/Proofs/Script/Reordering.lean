import SchemaScript.Proofs.Script.Success
import SchemaScript.Proofs.Script.Tables
import SchemaScript.Proofs.TableUnit.Extension

/-!
# Scripts of reordered models

The order in which a model declares its entities decides in which order its
script creates them, and nothing else.  Names and tables of a valid model are
distinct, so that a search finds the same entity in every order; each entity
then has the same unit, and whether units can be put in order depends on their
foreign keys alone.
-/

namespace SchemaScript

open Relation Sql TableUnit

/-! ## Namespaces -/

/-- The namespaces of a plan are those that tables lie in, each of them once. -/
theorem Plan.mem_namespaces
    {model : Model}
    {database : Database}
    {plan : Plan}
    (made : ofModel model database = .ok plan) :
    (∀ name, name ∈ plan.namespaces ↔
      ∃ entity ∈ model.entities, entity.tableId.namespaceName? = some name) ∧
      plan.namespaces.Nodup := by
  rw [namespaces_eq made]
  refine ⟨fun name => ?_, nodup_meetNamespaces .nil⟩
  rw [mem_meetNamespaces]
  simp

/-! ## Reordered models -/

/-- A model declares the entities of another one in a different order. -/
structure Model.Reorders (other model : Model) : Prop where
  info : other.info = model.info
  entities : other.entities.Perm model.entities

namespace Model.Reorders

variable {model other : Model} {database : Database}

theorem symm
    (reorders : other.Reorders model) :
    model.Reorders other where
  info := reorders.info.symm
  entities := reorders.entities.symm

/-- What is found in a model is found in every order of it. -/
theorem foundIn
    (reorders : other.Reorders model)
    (namesDistinct : (model.entities.map (·.name)).Nodup) :
    model.FoundIn other :=
  Model.foundIn_of_subset reorders.entities.symm.subset
    ((reorders.entities.map _).nodup_iff.mpr namesDistinct)

/-- Reordering declares the same entities. -/
theorem declaresAlike
    (reorders : other.Reorders model) :
    model.DeclaresAlike other := by
  intro id
  rw [Bool.eq_iff_iff, entityOfTable?_isNone_iff, entityOfTable?_isNone_iff]
  simp only [reorders.entities.mem_iff]

/-- Reordering keeps a model well-formed. -/
theorem wellFormed
    (reorders : other.Reorders model)
    (wellFormed : model.WellFormed) :
    other.WellFormed := by
  have found : model.FoundIn other := reorders.foundIn wellFormed.namesDistinct
  have joins : (joinIds other.entities).Perm (joinIds model.entities) :=
    reorders.entities.flatMap_right _
  refine {
    info := reorders.info ▸ wellFormed.info
    entitiesValid := ?_
    namesDistinct := (reorders.entities.map _).nodup_iff.mpr wellFormed.namesDistinct
    tablesDistinct := (reorders.entities.map _).nodup_iff.mpr wellFormed.tablesDistinct
    referencesFound := ?_
    linksFound := ?_
    joinColumnsDiffer := ?_
    joinsDistinct := joins.nodup_iff.mpr wellFormed.joinsDistinct }
  · intro entity member
    exact wellFormed.entitiesValid entity (reorders.entities.mem_iff.mp member)
  · intro entity entityMember field member
    have checked :=
      wellFormed.referencesFound entity (reorders.entities.mem_iff.mp entityMember) field member
    simp only [checkReference] at checked ⊢
    split at checked
    · split at checked
      · next target targetFound =>
          rw [found _ target targetFound]
      · cases checked
    · rfl
  · intro owner ownerMember relationship member
    obtain ⟨target, targetFound, fieldFound⟩ :=
      wellFormed.linksFound owner (reorders.entities.mem_iff.mp ownerMember) relationship member
    exact ⟨target, found _ target targetFound, fieldFound⟩
  · intro owner ownerMember
    exact wellFormed.joinColumnsDiffer owner (reorders.entities.mem_iff.mp ownerMember)

/-- Reordering keeps what refers to what. -/
theorem refersTo
    (reorders : other.Reorders model)
    (found : model.FoundIn other)
    {source target : TableId}
    (refers : model.RefersTo source target) :
    other.RefersTo source target := by
  obtain ⟨entity, member, sameSource, field, fieldMember, key, shown, sameTarget⟩ := refers
  exact
    ⟨entity, reorders.entities.mem_iff.mpr member, sameSource, field, fieldMember, key,
      shownReference_of_foundIn found shown, sameTarget⟩

/-- Whether a model has a plan does not depend on the order of its entities. -/
theorem exists_plan
    (reorders : other.Reorders model)
    (planned : ∃ plan, Plan.ofModel model database = .ok plan) :
    ∃ plan, Plan.ofModel other database = .ok plan := by
  have wellFormed := Plan.wellFormed_of_planned planned
  have otherFormed := reorders.wellFormed wellFormed
  have found := reorders.foundIn wellFormed.namesDistinct
  have foundBack := reorders.symm.foundIn otherFormed.namesDistinct
  apply Plan.exists_ofModel_of_covering planned otherFormed
  · intro entity member
    exact ⟨entity, reorders.entities.mem_iff.mp member, rfl, rfl⟩
  · intro field name named
    exact found.columnType named
  · intro source target
    exact reorders.symm.refersTo foundBack

/-- Plans of reordered models have the same units. -/
theorem units_perm
    (reorders : other.Reorders model)
    {plan otherPlan : Plan}
    (planOf : Plan.PlanOf model database plan)
    (otherPlanOf : Plan.PlanOf other database otherPlan) :
    otherPlan.units.Perm plan.units := by
  obtain ⟨units, related, run⟩ := planOf.units
  obtain ⟨otherUnits, otherRelated, otherRun⟩ := otherPlanOf.units
  have found := reorders.foundIn planOf.wellFormed.namesDistinct
  have relatedAlike : List.Forall₂ (UnitOf other database) model.entities units :=
    related.imp fun _ _ unitOf => unitOf.of_foundIn found reorders.declaresAlike
  obtain ⟨reordered, reorderedRelated, sameUnits⟩ :=
    List.perm_comp_forall₂ reorders.entities relatedAlike
  have onlyOne : Relator.RightUnique (UnitOf other database) := by
    intro entity first second firstOf secondOf
    rw [← ofEntity_eq_ok_iff] at firstOf secondOf
    rw [firstOf] at secondOf
    exact Except.ok.inj secondOf
  have same : reordered = otherUnits :=
    List.right_unique_forall₂' onlyOne reorderedRelated otherRelated
  rw [same] at sameUnits
  have ordered : plan.units.Perm units := by
    simpa using run.complete
  have otherOrdered : otherPlan.units.Perm otherUnits := by
    simpa using otherRun.complete
  exact otherOrdered.trans (sameUnits.trans ordered.symm)

/-- Plans of reordered models have the same namespaces. -/
theorem namespaces_perm
    (reorders : other.Reorders model)
    {plan otherPlan : Plan}
    (made : Plan.ofModel model database = .ok plan)
    (otherMade : Plan.ofModel other database = .ok otherPlan) :
    otherPlan.namespaces.Perm plan.namespaces := by
  obtain ⟨members, distinct⟩ := Plan.mem_namespaces made
  obtain ⟨otherMembers, otherDistinct⟩ := Plan.mem_namespaces otherMade
  rw [List.perm_ext_iff_of_nodup otherDistinct distinct]
  intro name
  simp only [members, otherMembers, reorders.entities.mem_iff]

end Model.Reorders

/-! ## Scripts -/

/--
When a model declares the same entities in another order, a script is written
for both or for neither.  Two such scripts have the same namespaces, tables and
join tables, and the same block for each table and each join table.
-/
theorem generate_reordered
    {model other : Model}
    {target : Target}
    (sameInfo : other.info = model.info)
    (sameEntities : other.entities.Perm model.entities) :
    ((∃ script, Script.generate model target = .ok script) ↔
        ∃ script, Script.generate other target = .ok script) ∧
      ∀ script otherScript,
        Script.generate model target = .ok script →
        Script.generate other target = .ok otherScript →
          otherScript.namespaces.Perm script.namespaces ∧
          otherScript.tables.Perm script.tables ∧
          otherScript.joinTables.Perm script.joinTables ∧
          ∃ plan otherPlan : Plan,
            Plan.ofModel model target.database = .ok plan ∧
            Plan.ofModel other target.database = .ok otherPlan ∧
            script.HoldsBlocks target (plan.tableBlocks target) (plan.joinBlocks target) ∧
            otherScript.HoldsBlocks target (otherPlan.tableBlocks target)
              (otherPlan.joinBlocks target) ∧
            (otherPlan.tableBlocks target).Perm (plan.tableBlocks target) ∧
            (otherPlan.joinBlocks target).Perm (plan.joinBlocks target) := by
  have reorders : other.Reorders model := ⟨sameInfo, sameEntities⟩
  constructor
  · rw [Script.exists_generate_iff_exists_ofModel, Script.exists_generate_iff_exists_ofModel]
    exact ⟨reorders.exists_plan, reorders.symm.exists_plan⟩
  · intro script otherScript generated otherGenerated
    obtain ⟨plan, made, rfl⟩ := Script.plan_of_generate generated
    obtain ⟨otherPlan, otherMade, rfl⟩ := Script.plan_of_generate otherGenerated
    have sameUnits : otherPlan.units.Perm plan.units :=
      reorders.units_perm (Plan.planOf_of_ofModel made) (Plan.planOf_of_ofModel otherMade)
    refine
      ⟨reorders.namespaces_perm made otherMade, sameUnits.map _, sameUnits.flatMap_right _, plan,
        otherPlan, made, otherMade, Script.holdsBlocks_ofPlan, Script.holdsBlocks_ofPlan,
        sameUnits.map _, sameUnits.flatMap_right _⟩

/-- The league with its entities declared the other way round. -/
def reversedLeagueModel : Model :=
  { leagueModel with entities := leagueModel.entities.reverse }

/-- Both orders of the league are written, with the same tables and blocks. -/
theorem generate_reordered_leagueModel :
    reversedLeagueModel.info = leagueModel.info ∧
      reversedLeagueModel.entities.Perm leagueModel.entities ∧
      ∃ script otherScript,
        Script.generate leagueModel Target.standard = .ok script ∧
        Script.generate reversedLeagueModel Target.standard = .ok otherScript ∧
        otherScript.tables.Perm script.tables ∧
        ∃ plan otherPlan : Plan,
          script.HoldsBlocks Target.standard (plan.tableBlocks Target.standard)
            (plan.joinBlocks Target.standard) ∧
          otherScript.HoldsBlocks Target.standard (otherPlan.tableBlocks Target.standard)
            (otherPlan.joinBlocks Target.standard) ∧
          (otherPlan.tableBlocks Target.standard).Perm (plan.tableBlocks Target.standard) := by
  have sameInfo : reversedLeagueModel.info = leagueModel.info := rfl
  have sameEntities : reversedLeagueModel.entities.Perm leagueModel.entities :=
    List.reverse_perm leagueModel.entities
  obtain ⟨bothWritten, sameBlocks⟩ :=
    @generate_reordered leagueModel reversedLeagueModel Target.standard sameInfo sameEntities
  obtain ⟨script, generated⟩ := exists_generate_leagueModel
  obtain ⟨otherScript, otherGenerated⟩ := bothWritten.mp ⟨script, generated⟩
  obtain ⟨-, sameTables, -, plan, otherPlan, -, -, holds, otherHolds, sameTableBlocks, -⟩ :=
    sameBlocks script otherScript generated otherGenerated
  exact
    ⟨sameInfo, sameEntities, script, otherScript, generated, otherGenerated, sameTables, plan,
      otherPlan, holds, otherHolds, sameTableBlocks⟩

end SchemaScript
