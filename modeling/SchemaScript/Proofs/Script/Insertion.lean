import SchemaScript.Proofs.Script.Tables
import SchemaScript.Proofs.TableUnit.Extension
import SchemaScript.Proofs.TableUnit.Stability

/-!
# Scripts of models with an entity more

An entity that is added to a model may refer to the others, which cannot refer
to it as long as the model is valid without it.  The others then find what they
found before, so that their tables have the same blocks, and leaving the added
table out of the order keeps the order of the others.
-/

namespace SchemaScript

open Sql TableUnit

/-- A model declares one entity more than another one, at any place among the others. -/
structure Model.Inserts (other model : Model) (added : Entity) : Prop where
  info : other.info = model.info
  entities :
    ∃ earlier later,
      model.entities = earlier ++ later ∧ other.entities = earlier ++ added :: later

namespace Model.Inserts

variable {model other : Model} {added : Entity} {database : Database}

/-! ## Entities -/

/-- What is found in a model is found in it after an entity was inserted. -/
theorem foundIn
    (inserts : other.Inserts model added)
    (namesDistinct : (other.entities.map (·.name)).Nodup) :
    model.FoundIn other := by
  obtain ⟨earlier, later, entities, otherEntities⟩ := inserts.entities
  refine foundIn_of_subset ?_ namesDistinct
  rw [entities, otherEntities]
  exact (List.sublist_cons_self added later).append_left earlier |>.subset

/-- The added table is none of those that were there. -/
theorem tableId_ne
    (inserts : other.Inserts model added)
    (tablesDistinct : (other.entities.map (·.tableId)).Nodup)
    {entity : Entity}
    (member : entity ∈ model.entities) :
    entity.tableId ≠ added.tableId := by
  obtain ⟨earlier, later, entities, otherEntities⟩ := inserts.entities
  rw [otherEntities, List.map_append, List.map_cons, List.nodup_middle, List.nodup_cons,
    ← List.map_append, ← entities] at tablesDistinct
  intro same
  exact tablesDistinct.1 (same ▸ List.mem_map_of_mem member)

/-- Without the added table, the entities are those that were there. -/
theorem filter_entities
    (inserts : other.Inserts model added)
    (tablesDistinct : (other.entities.map (·.tableId)).Nodup) :
    other.entities.filter (fun entity => entity.tableId != added.tableId) = model.entities := by
  have kept : ∀ entity ∈ model.entities, (entity.tableId != added.tableId) = true := by
    intro entity member
    simpa using inserts.tableId_ne tablesDistinct member
  obtain ⟨earlier, later, entities, otherEntities⟩ := inserts.entities
  rw [entities] at kept ⊢
  rw [List.forall_mem_append] at kept
  rw [otherEntities, List.filter_append, List.filter_eq_self.mpr kept.1,
    List.filter_cons_of_neg (by simp), List.filter_eq_self.mpr kept.2]

/-! ## Units -/

/-- Apart from the added one, the units of the two models have the same blocks. -/
theorem units_sameBlock
    (inserts : other.Inserts model added)
    (namesDistinct : (other.entities.map (·.name)).Nodup)
    (tablesDistinct : (other.entities.map (·.tableId)).Nodup)
    {units otherUnits : List (TableUnit (List Statement))}
    (related : List.Forall₂ (UnitOf model database) model.entities units)
    (otherRelated : List.Forall₂ (UnitOf other database) other.entities otherUnits) :
    List.Forall₂ SameBlock units
      (otherUnits.filter fun unit => unit.id != added.tableId) := by
  have keptRelated :
      List.Forall₂ (UnitOf other database) model.entities
        (otherUnits.filter fun unit => unit.id != added.tableId) := by
    rw [← inserts.filter_entities tablesDistinct]
    apply List.rel_filter _ otherRelated
    intro entity unit unitOf
    simp only [unitOf.id]
  have found := inserts.foundIn namesDistinct
  apply forall₂_of_common related keptRelated
  intro entity _ unit otherUnit unitOf otherOf
  exact unitOf.sameBlock_of_foundIn found otherOf

/-- No table but the added one refers to the added one. -/
theorem dependency_ne
    (inserts : other.Inserts model added)
    (tablesDistinct : (other.entities.map (·.tableId)).Nodup)
    {units otherUnits : List (TableUnit (List Statement))}
    (related : List.Forall₂ (UnitOf model database) model.entities units)
    (sameBlocks : List.Forall₂ SameBlock units
      (otherUnits.filter fun unit => unit.id != added.tableId))
    {unit : TableUnit (List Statement)}
    (member : unit ∈ otherUnits)
    (kept : (unit.id != added.tableId) = true)
    {target : TableId}
    (depends : target ∈ unit.dependencies) :
    (target != added.tableId) = true := by
  obtain ⟨before, beforeMember, same⟩ :=
    exists_left_of_forall₂ sameBlocks (List.mem_filter.mpr ⟨member, kept⟩)
  obtain ⟨entity, _, unitOf⟩ := exists_left_of_forall₂ related beforeMember
  rw [same] at depends
  obtain ⟨declared, declaredMember, rfl⟩ := unitOf.dependency_declared depends
  simpa using inserts.tableId_ne tablesDistinct declaredMember

/-- Plans of the two models have the same tables in the same order, the added one left out. -/
theorem plan_sameBlock
    (inserts : other.Inserts model added)
    {plan otherPlan : Plan}
    (made : Plan.ofModel model database = .ok plan)
    (otherMade : Plan.ofModel other database = .ok otherPlan) :
    List.Forall₂ SameBlock plan.units
      (otherPlan.units.filter fun unit => unit.id != added.tableId) := by
  have wellFormed := (Plan.planOf_of_ofModel otherMade).wellFormed
  obtain ⟨_, _, ⟨units, unitsMade, ordered⟩, _⟩ := Plan.ofModel_eq_ok_iff.mp made
  obtain ⟨_, _, ⟨otherUnits, otherUnitsMade, otherOrdered⟩, _⟩ :=
    Plan.ofModel_eq_ok_iff.mp otherMade
  have related := (Plan.unitOf_of_unitsOf unitsMade).1
  have sameBlocks :=
    inserts.units_sameBlock wellFormed.namesDistinct wellFormed.tablesDistinct related
      (Plan.unitOf_of_unitsOf otherUnitsMade).1
  have keptOrdered :
      order (otherUnits.filter fun unit => unit.id != added.tableId) =
        .ok (otherPlan.units.filter fun unit => unit.id != added.tableId) := by
    let isOther (id : TableId) : Bool := id != added.tableId
    have closed :
        ∀ unit ∈ otherUnits, isOther unit.id = true →
          ∀ target ∈ unit.dependencies, isOther target = true := by
      intro unit member kept target depends
      exact
        inserts.dependency_ne wellFormed.tablesDistinct related sameBlocks member kept depends
    exact order_filter closed otherOrdered
  have agree : Agree (List.Forall₂ SameBlock) (order units) _ :=
    agree_order (fun unit other same => by rw [same]; exact ⟨rfl, rfl⟩) sameBlocks
  obtain ⟨_, succeeded, orderedRelated⟩ := agree.exists_right ordered
  rw [keptOrdered] at succeeded
  cases succeeded
  exact orderedRelated

end Model.Inserts

/-! ## Scripts -/

/--
When an entity is added to a model and both models can be written, the script
has the tables that were there in the same order and with the same blocks.
-/
theorem generate_inserted
    {model other : Model}
    {added : Entity}
    {target : Target}
    {script otherScript : Script}
    (inserts : other.Inserts model added)
    (generated : Script.generate model target = .ok script)
    (otherGenerated : Script.generate other target = .ok otherScript) :
    otherScript.tables.erase added.tableId = script.tables ∧
      ∃ plan otherPlan : Plan,
        Plan.ofModel model target.database = .ok plan ∧
        Plan.ofModel other target.database = .ok otherPlan ∧
        script.HoldsBlocks target (plan.tableBlocks target) (plan.joinBlocks target) ∧
        otherScript.HoldsBlocks target (otherPlan.tableBlocks target)
          (otherPlan.joinBlocks target) ∧
        (otherPlan.tableBlocks target).filter (fun block => block.1 != added.tableId) =
          plan.tableBlocks target := by
  obtain ⟨plan, made, rfl⟩ := Script.plan_of_generate generated
  obtain ⟨otherPlan, otherMade, rfl⟩ := Script.plan_of_generate otherGenerated
  have sameBlocks := inserts.plan_sameBlock made otherMade
  have blocks :
      (otherPlan.tableBlocks target).filter (fun block => block.1 != added.tableId) =
        plan.tableBlocks target := by
    rw [Plan.tableBlocks, List.filter_map]
    apply map_eq_of_forall₂ sameBlocks
    intro unit otherUnit same
    rw [same]
  refine
    ⟨?_, plan, otherPlan, made, otherMade, Script.holdsBlocks_ofPlan, Script.holdsBlocks_ofPlan,
      blocks⟩
  have distinct := ((Plan.planOf_of_ofModel otherMade).tables_nodup).of_append_left
  calc
    otherPlan.tables.erase added.tableId =
        otherPlan.tables.filter (· != added.tableId) := distinct.erase_eq_filter _
    _ = ((otherPlan.tableBlocks target).filter
          fun block => block.1 != added.tableId).map Prod.fst := by
      simp only [Plan.tables, Plan.tableBlocks, List.filter_map, List.map_map]
      rfl
    _ = plan.tables := by
      rw [blocks, Plan.tableBlocks, Plan.tables, List.map_map]
      rfl

/--
Guests of the league, who refer to a team.  Their table is one that the league
joins its games with teams in.
-/
def guest : Entity :=
  { ((Entity.named "Guest").inNamespace "play; off").withRelationship
      (.linking "team" "Team" .manyToOne) with
    tableName := "game_team" }

/-- The league with its guests declared in second place. -/
def openLeagueModel : Model :=
  { leagueModel with
    entities := leagueModel.entities.take 1 ++ guest :: leagueModel.entities.drop 1 }

/-- A guest that nothing refers to changes nothing else in the script of a league. -/
theorem generate_inserted_leagueModel :
    openLeagueModel.Inserts leagueModel guest ∧
      ∃ script otherScript,
        Script.generate leagueModel Target.standard = .ok script ∧
        Script.generate openLeagueModel Target.standard = .ok otherScript ∧
        otherScript.tables.erase guest.tableId = script.tables ∧
        ∃ plan otherPlan : Plan,
          Plan.ofModel leagueModel Target.standard.database = .ok plan ∧
          Plan.ofModel openLeagueModel Target.standard.database = .ok otherPlan ∧
          script.HoldsBlocks Target.standard (plan.tableBlocks Target.standard)
            (plan.joinBlocks Target.standard) ∧
          otherScript.HoldsBlocks Target.standard (otherPlan.tableBlocks Target.standard)
            (otherPlan.joinBlocks Target.standard) ∧
          (otherPlan.tableBlocks Target.standard).filter
              (fun block => block.1 != guest.tableId) =
            plan.tableBlocks Target.standard := by
  have inserts : openLeagueModel.Inserts leagueModel guest := {
    info := rfl
    entities :=
      ⟨leagueModel.entities.take 1, leagueModel.entities.drop 1,
        (List.take_append_drop 1 leagueModel.entities).symm, rfl⟩ }
  obtain ⟨script, generated⟩ := exists_generate_leagueModel
  have otherWritten :
      ∃ otherScript, Script.generate openLeagueModel Target.standard = .ok otherScript := by
    apply exists_of_isOk
    decide +kernel
  obtain ⟨otherScript, otherGenerated⟩ := otherWritten
  exact
    ⟨inserts, script, otherScript, generated, otherGenerated,
      generate_inserted inserts generated otherGenerated⟩

end SchemaScript
