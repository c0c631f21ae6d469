import SchemaScript.Proofs.Script.Failure
import SchemaScript.Proofs.Script.Tables
import SchemaScript.Proofs.TableUnit.Stability

/-!
# Scripts for different databases

Databases write types, comments and foreign keys in their own ways, and some
refuse what others take.  What a script creates, and in which order, does not
depend on the database: the unit of an entity has the same tables and
references for all of them, and these decide about the order.
-/

namespace SchemaScript

open Sql TableUnit

/-! ## Units for two databases -/

/-- Two units create the same tables and refer to the same ones. -/
structure TableUnit.SameTables (unit other : TableUnit (List Statement)) : Prop where
  id : other.id = unit.id
  dependencies : other.dependencies = unit.dependencies
  joinTables : other.joinTables.map (·.id) = unit.joinTables.map (·.id)

/-- The units of an entity for two databases create the same tables. -/
theorem TableUnit.UnitOf.sameTables
    {model : Model}
    {database otherDatabase : Database}
    {entity : Entity}
    {unit other : TableUnit (List Statement)}
    (unitOf : UnitOf model database entity unit)
    (otherOf : UnitOf model otherDatabase entity other) :
    SameTables unit other where
  id := otherOf.id.trans unitOf.id.symm
  dependencies := by
    obtain ⟨table, _, tableOf, _, dependencies, _⟩ := unitOf.table
    obtain ⟨otherTable, _, otherTableOf, _, otherDependencies, _⟩ := otherOf.table
    -- a column shows its key wherever the database writes it
    rw [dependencies, otherDependencies, tableOf.foreignKeys_eq_filterMap,
      otherTableOf.foreignKeys_eq_filterMap]
  joinTables := otherOf.joinTables_ids.trans unitOf.joinTables_ids.symm

namespace Plan

variable {model : Model} {database otherDatabase : Database}

/-- When a model has units for two databases, they are put in order alike. -/
theorem agree_order_of_unitsOf
    {namespaces otherNamespaces : Namespaces}
    {units otherUnits : List (TableUnit (List Statement))}
    (made : unitsOf model database [] model.entities = .ok (namespaces, units))
    (otherMade : unitsOf model otherDatabase [] model.entities =
      .ok (otherNamespaces, otherUnits)) :
    Agree (List.Forall₂ SameTables) (order units) (order otherUnits) := by
  have related := (unitOf_of_unitsOf made).1
  have otherRelated := (unitOf_of_unitsOf otherMade).1
  apply agree_order
  · intro unit other same
    exact ⟨same.id, same.dependencies⟩
  · apply forall₂_of_common related otherRelated
    intro entity _ unit other unitOf otherOf
    exact unitOf.sameTables otherOf

/-- The plans of a model for two databases have units of the same tables in the same order. -/
theorem units_sameTables
    {plan otherPlan : Plan}
    (made : ofModel model database = .ok plan)
    (otherMade : ofModel model otherDatabase = .ok otherPlan) :
    List.Forall₂ SameTables plan.units otherPlan.units := by
  obtain ⟨_, _, ⟨_, unitsMade, ordered⟩, _⟩ := ofModel_eq_ok_iff.mp made
  obtain ⟨_, _, ⟨_, otherUnitsMade, otherOrdered⟩, _⟩ := ofModel_eq_ok_iff.mp otherMade
  obtain ⟨_, succeeded, related⟩ :=
    (agree_order_of_unitsOf unitsMade otherUnitsMade).exists_right ordered
  rw [otherOrdered] at succeeded
  cases succeeded
  exact related

/-! ## Cycles -/

/-- A cycle is met only when units are put in order. -/
theorem order_of_ofModel_eq_cyclic
    {tables : List String}
    (failed : ofModel model database = .error (.cyclicDependency tables)) :
    ∃ namespaces units,
      unitsOf model database [] model.entities = .ok (namespaces, units) ∧
        order units = .error (.cyclicDependency tables) := by
  let cause (error : SchemaError) : Prop :=
    error.isCyclic = true →
      ∃ namespaces units,
        unitsOf model database [] model.entities = .ok (namespaces, units) ∧
          order units = .error error
  have notCyclic
      (error : SchemaError)
      (forAuthor : error.isModelError = true) :
      cause error := by
    intro cyclic
    cases error <;> cases cyclic
    cases forAuthor
  have fails : FailsOnly cause (ofModel model database) := by
    refine .bind (Model.validate_fails.mono notCyclic) fun _ valid => ?_
    have wellFormed := Model.validate_eq_ok_iff.mp valid
    refine .bind (Report.toResult_fails.mono notCyclic) fun _ _ => ?_
    refine .bind ?_ fun ⟨namespaces, units⟩ unitsMade => ?_
    · intro error unitsFailed
      rcases unitsOf_fails wellFormed (List.Subset.refl _) error unitsFailed with
        ⟨_, _, _, _, _, _, rfl⟩ | ⟨_, _, _, _, untyped⟩
      · exact notCyclic _ rfl
      · rcases Model.columnType_fails error untyped with forAuthor | holds
        · exact notCyclic error forAuthor
        · obtain ⟨_, _, _, _, _, rfl⟩ := holds.references
          intro cyclic
          cases cyclic
    · refine .bind ?_ fun _ _ => failsOnly_ok
      intro error orderFailed _
      exact ⟨namespaces, units, unitsMade, orderFailed⟩
  exact fails _ failed rfl

/-- A cycle that one database meets stands in the way of every other one as well. -/
theorem ofModel_of_cyclic
    {tables : List String}
    (failed : ofModel model database = .error (.cyclicDependency tables)) :
    (∀ plan, ofModel model otherDatabase ≠ .ok plan) ∧
      ∀ otherTables,
        ofModel model otherDatabase = .error (.cyclicDependency otherTables) →
          otherTables = tables := by
  obtain ⟨_, _, unitsMade, orderFailed⟩ := order_of_ofModel_eq_cyclic failed
  constructor
  · intro plan made
    obtain ⟨_, _, ⟨_, otherUnitsMade, ordered⟩, _⟩ := ofModel_eq_ok_iff.mp made
    obtain ⟨_, succeeded, _⟩ :=
      (agree_order_of_unitsOf otherUnitsMade unitsMade).exists_right ordered
    rw [orderFailed] at succeeded
    cases succeeded
  · intro otherTables otherFailed
    obtain ⟨_, _, otherUnitsMade, otherOrderFailed⟩ := order_of_ofModel_eq_cyclic otherFailed
    have agree := agree_order_of_unitsOf unitsMade otherUnitsMade
    rw [orderFailed, otherOrderFailed] at agree
    cases agree
    rfl

end Plan

/-! ## Scripts -/

/--
Scripts of a model for two targets create the same namespaces, tables and join
tables in the same order and warn of the same.  When a model cannot be written
for one target because of a cycle, it can be written for no other, and the
same tables are named wherever a cycle is the reason.
-/
theorem generate_acrossTargets
    {model : Model}
    {target other : Target} :
    (∀ script otherScript,
      Script.generate model target = .ok script →
      Script.generate model other = .ok otherScript →
        otherScript.namespaces = script.namespaces ∧
        otherScript.tables = script.tables ∧
        otherScript.joinTables = script.joinTables ∧
        otherScript.warnings = script.warnings) ∧
      ∀ tables,
        Script.generate model target = .error (.cyclicDependency tables) →
          (∀ otherScript, Script.generate model other ≠ .ok otherScript) ∧
          ∀ otherTables,
            Script.generate model other = .error (.cyclicDependency otherTables) →
              otherTables = tables := by
  constructor
  · intro script otherScript generated otherGenerated
    obtain ⟨plan, made, rfl⟩ := Script.plan_of_generate generated
    obtain ⟨otherPlan, otherMade, rfl⟩ := Script.plan_of_generate otherGenerated
    have related := Plan.units_sameTables made otherMade
    refine ⟨?_, ?_, ?_, ?_⟩
    · exact (Plan.namespaces_eq otherMade).trans (Plan.namespaces_eq made).symm
    · exact map_eq_of_forall₂ related fun _ _ same => same.id
    · have joins :
          otherPlan.units.map (fun unit => unit.joinTables.map (·.id)) =
            plan.units.map fun unit => unit.joinTables.map (·.id) :=
        map_eq_of_forall₂ related fun _ _ same => same.joinTables
      simp only [Script.ofPlan, Plan.joinTables, List.flatMap_def, joins]
    · have warned := (Plan.ofModel_eq_ok_iff.mp made).2.2.2
      have otherWarned := (Plan.ofModel_eq_ok_iff.mp otherMade).2.2.2
      exact otherWarned.trans warned.symm
  · intro tables failed
    have planFailed := Script.generate_eq_error_iff.mp failed
    obtain ⟨notPlanned, sameTables⟩ :=
      @Plan.ofModel_of_cyclic model target.database other.database tables planFailed
    constructor
    · intro otherScript otherGenerated
      obtain ⟨otherPlan, otherMade, _⟩ := Script.plan_of_generate otherGenerated
      exact notPlanned otherPlan otherMade
    · intro otherTables otherFailed
      exact sameTables otherTables (Script.generate_eq_error_iff.mp otherFailed)

/-- Two entities whose tables refer to each other. -/
def rivalsModel : Model where
  info := .named "Rivals"
  entities := [
    (Entity.named "Captain").withRelationship (.linking "club" "Club" .manyToOne),
    (Entity.named "Club").withRelationship (.linking "captain" "Captain" .manyToOne)]

/-- Scripts in MySQL that do not ask whether what they create is there. -/
def unguardedMySQL : Target where
  database := .mySQL
  safe := false

/-- The rivals refer to each other, for both databases alike. -/
theorem generate_rivalsModel :
    Script.generate rivalsModel Target.standard =
        .error (.cyclicDependency ["captain", "club"]) ∧
      Script.generate rivalsModel unguardedMySQL =
        .error (.cyclicDependency ["captain", "club"]) := by
  decide +kernel

/-- A league has the same tables in both databases, and rivals are refused with the same tables. -/
theorem generate_acrossTargets_leagueModel :
    (∃ script otherScript,
      Script.generate leagueModel Target.standard = .ok script ∧
        Script.generate leagueModel unguardedMySQL = .ok otherScript ∧
        otherScript.namespaces = script.namespaces ∧
        otherScript.tables = script.tables ∧
        otherScript.joinTables = script.joinTables ∧
        otherScript.warnings = script.warnings) ∧
      (∀ otherScript, Script.generate rivalsModel unguardedMySQL ≠ .ok otherScript) ∧
      ∀ otherTables,
        Script.generate rivalsModel unguardedMySQL = .error (.cyclicDependency otherTables) →
          otherTables = ["captain", "club"] := by
  constructor
  · obtain ⟨script, generated⟩ := exists_generate_leagueModel
    have otherWritten :
        ∃ otherScript, Script.generate leagueModel unguardedMySQL = .ok otherScript := by
      apply exists_of_isOk
      decide +kernel
    obtain ⟨otherScript, otherGenerated⟩ := otherWritten
    exact
      ⟨script, otherScript, generated, otherGenerated,
        generate_acrossTargets.1 script otherScript generated otherGenerated⟩
  · exact generate_acrossTargets.2 ["captain", "club"] generate_rivalsModel.1

end SchemaScript
