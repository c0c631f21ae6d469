import SchemaScript.Script
import SchemaScript.Proofs.TableUnit.ForeignKeys
import SchemaScript.Proofs.TableUnit.Order

/-!
# Plans of valid models

What a plan holds once it has been made: the model is well-formed, each unit
is that of an entity, the units come from a run of the ordering that got stuck
nowhere, and every namespace that a table lies in is known.
-/

namespace SchemaScript

open Sql

/-! ## Namespaces -/

/-- The namespaces that are known once a table is met. -/
def meetNamespace (known : Namespaces) (id : TableId) : Namespaces :=
  match id.namespaceName? with
  | none => known
  | some name => if known.contains name then known else known ++ [name]

/-- Meeting tables keeps the namespaces known and adds those that the tables lie in. -/
theorem mem_meetNamespaces
    {known : Namespaces}
    {ids : List TableId}
    {name : String} :
    name ∈ ids.foldl meetNamespace known ↔
      name ∈ known ∨ ∃ id ∈ ids, id.namespaceName? = some name := by
  have met
      (known : Namespaces)
      (id : TableId) :
      name ∈ meetNamespace known id ↔ name ∈ known ∨ id.namespaceName? = some name := by
    rw [meetNamespace]
    cases id.namespaceName? with
    | none =>
        simp
    | some own =>
        by_cases already : own ∈ known
        · have stays : own = name → name ∈ known := fun same => same ▸ already
          simpa [already] using stays
        · simp [already, eq_comm]
  induction ids generalizing known with
  | nil =>
      simp
  | cons id later inductionHypothesis =>
      rw [List.foldl_cons]
      refine inductionHypothesis.trans ?_
      rw [met, or_assoc, List.exists_mem_cons_iff]

/-- Tables that are met leave each namespace known once. -/
theorem nodup_meetNamespaces
    {known : Namespaces}
    {ids : List TableId}
    (distinct : known.Nodup) :
    (ids.foldl meetNamespace known).Nodup := by
  have met
      (known : Namespaces)
      (id : TableId)
      (distinct : known.Nodup) :
      (meetNamespace known id).Nodup := by
    rw [meetNamespace]
    split
    · exact distinct
    · next name _ =>
        by_cases already : name ∈ known
        · simpa [already] using distinct
        · simp only [List.contains_eq_mem, already, decide_false, Bool.false_eq_true, if_false]
          rw [List.nodup_append_comm, List.singleton_append, List.nodup_cons]
          exact ⟨already, distinct⟩
  induction ids generalizing known with
  | nil =>
      exact distinct
  | cons id later inductionHypothesis =>
      exact inductionHypothesis (met known id distinct)

/-- The namespace of an entity is discovered by meeting its table, whatever the database. -/
theorem eq_of_discoverNamespace
    {database : Database}
    {known complete : Namespaces}
    {entity : Entity}
    (discovered : discoverNamespace database known entity.namespaceName? = .ok complete) :
    complete = meetNamespace known entity.tableId := by
  simp only [meetNamespace, Entity.tableId, TableId.within]
  cases given : entity.namespaceName? with
  | none =>
      rw [given] at discovered
      cases discovered
      rfl
  | some name =>
      rw [given] at discovered
      by_cases empty : name = ""
      · subst empty
        cases discovered
        rfl
      · have lies : (some name).filter (fun name => !name.isEmpty) = some name := by
          simp [Option.filter, empty]
        simp only [lies]
        simp only [discoverNamespace, String.isEmpty_iff, empty, if_false] at discovered
        split at discovered
        · cases discovered
        · split at discovered
          · next already =>
              cases discovered
              rw [if_pos already]
          · next new =>
              cases discovered
              rw [if_neg new]

namespace TableUnit

/-! ## Tables that foreign keys refer to -/

/-- The foreign key of a field refers to the table of an entity. -/
theorem target_of_shownReference
    {model : Model}
    {entity : Entity}
    {field : Field}
    {key : ForeignKey}
    (shown : shownReference model entity field = .ok (some key)) :
    ∃ target ∈ model.entities, key.target = target.tableId := by
  obtain ⟨_, _, _, _, keyOf⟩ := shownReference_eq_some_iff.mp shown
  obtain ⟨target, member, sameTable, _⟩ := keyOf.exists_target
  exact ⟨target, member, sameTable.symm⟩

/-- The tables that an entity's table depends on are tables of entities. -/
theorem UnitOf.dependency_declared
    {model : Model}
    {database : Database}
    {entity : Entity}
    {unit : TableUnit (List Statement)}
    (unitOf : UnitOf model database entity unit)
    {target : TableId}
    (depends : target ∈ unit.dependencies) :
    ∃ other ∈ model.entities, other.tableId = target := by
  obtain ⟨field, _, key, shown, rfl⟩ := unitOf.mem_dependencies_iff.mp depends
  obtain ⟨other, otherMember, same⟩ := target_of_shownReference shown
  exact ⟨other, otherMember, same.symm⟩

/-- Units of entities are as distinct as these, and refer to each other only. -/
theorem selfContained_of_forall₂
    {model : Model}
    {database : Database}
    {units : List (TableUnit (List Statement))}
    (tablesDistinct : (model.entities.map (·.tableId)).Nodup)
    (unitsOf : List.Forall₂ (UnitOf model database) model.entities units) :
    SelfContained units := by
  have ids : units.map (·.id) = model.entities.map (·.tableId) :=
    map_eq_of_forall₂ unitsOf fun _ _ unitOf => unitOf.id
  refine ⟨ids ▸ tablesDistinct, ?_⟩
  intro unit member target depends
  obtain ⟨entity, _, unitOf⟩ := exists_left_of_forall₂ unitsOf member
  obtain ⟨other, otherMember, rfl⟩ := unitOf.dependency_declared depends
  have listed : other.tableId ∈ units.map (·.id) :=
    ids ▸ List.mem_map_of_mem otherMember
  exact List.mem_map.mp listed

end TableUnit

namespace Plan

open TableUnit

/-! ## Plans -/

/-- The units of some entities, and the namespaces that are met with their tables. -/
theorem unitOf_of_unitsOf
    {model : Model}
    {database : Database}
    {known complete : Namespaces}
    {entities : List Entity}
    {units : List (TableUnit (List Statement))}
    (made : unitsOf model database known entities = .ok (complete, units)) :
    List.Forall₂ (UnitOf model database) entities units ∧
      complete = (entities.map (·.tableId)).foldl meetNamespace known := by
  induction entities generalizing known units with
  | nil =>
      cases made
      exact ⟨.nil, rfl⟩
  | cons entity later inductionHypothesis =>
      simp only [unitsOf] at made
      split at made
      · next namespaces discovered =>
          split at made
          · next unit assembled =>
              split at made
              · next last rest restMade =>
                  cases made
                  obtain ⟨related, restMet⟩ := inductionHypothesis restMade
                  rw [eq_of_discoverNamespace discovered] at restMet
                  exact ⟨.cons (ofEntity_eq_ok_iff.mp assembled) related, restMet⟩
              · cases made
          · cases made
      · cases made

/-- A plan is made when the model is valid and its units are there and can be put in order. -/
theorem ofModel_eq_ok_iff
    {model : Model}
    {database : Database}
    {plan : Plan} :
    ofModel model database = .ok plan ↔
      model.validate = .ok () ∧
        (Report.ofModel model).toResult = .ok () ∧
        (∃ units, unitsOf model database [] model.entities = .ok (plan.namespaces, units) ∧
          order units = .ok plan.units) ∧
        plan.warnings = (Report.ofModel model).warnings.map ReportWarning.display := by
  simp only [ofModel, bind_eq_ok_iff, Prod.exists, Except.ok.injEq]
  constructor
  · rintro ⟨_, valid, _, accepted, _, units, unitsMade, _, ordered, rfl⟩
    exact ⟨valid, accepted, ⟨units, unitsMade, ordered⟩, rfl⟩
  · rintro ⟨valid, accepted, ⟨units, unitsMade, ordered⟩, warned⟩
    refine ⟨(), valid, (), accepted, plan.namespaces, units, unitsMade, plan.units, ordered, ?_⟩
    rw [← warned]

/-- A plan is that of a model. -/
structure PlanOf (model : Model) (database : Database) (plan : Plan) : Prop where
  wellFormed : model.WellFormed
  units :
    ∃ units, List.Forall₂ (UnitOf model database) model.entities units ∧
      Run [] units plan.units []
  namespaceKnown :
    ∀ entity ∈ model.entities, ∀ name,
      entity.tableId.namespaceName? = some name → name ∈ plan.namespaces

/-- Planning gives a plan of the model. -/
theorem planOf_of_ofModel
    {model : Model}
    {database : Database}
    {plan : Plan}
    (made : ofModel model database = .ok plan) :
    PlanOf model database plan := by
  obtain ⟨valid, _, ⟨units, unitsMade, ordered⟩, _⟩ := ofModel_eq_ok_iff.mp made
  obtain ⟨related, met⟩ := unitOf_of_unitsOf unitsMade
  refine {
    wellFormed := Model.validate_eq_ok_iff.mp valid
    units := ⟨units, related, run_of_order_eq_ok ordered⟩
    namespaceKnown := ?_ }
  intro entity member name lies
  rw [met, mem_meetNamespaces]
  exact .inr ⟨entity.tableId, List.mem_map_of_mem member, lies⟩

/-- A model that has a plan is well-formed. -/
theorem wellFormed_of_planned
    {model : Model}
    {database : Database}
    (planned : ∃ plan, ofModel model database = .ok plan) :
    model.WellFormed := by
  obtain ⟨plan, made⟩ := planned
  exact (planOf_of_ofModel made).wellFormed

/-- The namespaces of a plan are those met with the tables of the entities, in their order. -/
theorem namespaces_eq
    {model : Model}
    {database : Database}
    {plan : Plan}
    (made : ofModel model database = .ok plan) :
    plan.namespaces = (model.entities.map (·.tableId)).foldl meetNamespace [] := by
  obtain ⟨_, _, ⟨_, unitsMade, _⟩, _⟩ := ofModel_eq_ok_iff.mp made
  exact (unitOf_of_unitsOf unitsMade).2

namespace PlanOf

variable {model : Model} {database : Database} {plan : Plan}

/-- Every unit of a plan is that of an entity. -/
theorem entity_of_unit
    (planOf : PlanOf model database plan)
    {unit : TableUnit (List Statement)}
    (member : unit ∈ plan.units) :
    ∃ entity ∈ model.entities, UnitOf model database entity unit := by
  obtain ⟨units, related, run⟩ := planOf.units
  have assembled : unit ∈ units :=
    run.complete.mem_iff.mp (List.mem_append_left [] member)
  exact exists_left_of_forall₂ related assembled

/-- Every entity has a unit in a plan. -/
theorem unit_of_entity
    (planOf : PlanOf model database plan)
    {entity : Entity}
    (member : entity ∈ model.entities) :
    ∃ unit ∈ plan.units, UnitOf model database entity unit := by
  obtain ⟨units, related, run⟩ := planOf.units
  obtain ⟨unit, assembled, unitOf⟩ := exists_right_of_forall₂ related member
  have complete := run.complete.mem_iff.mpr assembled
  exact ⟨unit, by simpa using complete, unitOf⟩

/-- The tables of a plan are those of the entities in another order. -/
theorem tables_perm
    (planOf : PlanOf model database plan) :
    plan.tables.Perm (model.entities.map (·.tableId)) := by
  obtain ⟨units, related, run⟩ := planOf.units
  have ids : units.map (·.id) = model.entities.map (·.tableId) :=
    map_eq_of_forall₂ related fun _ _ unitOf => unitOf.id
  have everyUnit := run.complete.map (·.id)
  rw [List.append_nil, ids] at everyUnit
  exact everyUnit

end PlanOf

end Plan

/-- A script is the written form of a plan of its model. -/
theorem Script.plan_of_generate
    {model : Model}
    {target : Target}
    {script : Script}
    (generated : Script.generate model target = .ok script) :
    ∃ plan, Plan.ofModel model target.database = .ok plan ∧
      script = Script.ofPlan model.info.name target plan := by
  simp only [Script.generate] at generated
  split at generated
  · next plan made =>
      cases generated
      exact ⟨plan, made, rfl⟩
  · cases generated

/-- A script is refused for the reason that there is no plan. -/
theorem Script.generate_eq_error_iff
    {model : Model}
    {target : Target}
    {error : SchemaError} :
    Script.generate model target = .error error ↔
      Plan.ofModel model target.database = .error error := by
  simp only [generate]
  cases Plan.ofModel model target.database <;> simp

/-! ## A model with every kind of reference -/

/--
Games refer to a team that is declared after them, to another game, and to
many teams through two join tables, of which an entity declares one; names and
texts hold marks and semicolons.
-/
def leagueModel : Model where
  info := .named "League"
  entities := [
    (((((Entity.named "Game").inNamespace "play; off").withRelationship
        (.linking "home" "Team" .manyToOne)).withRelationship
        (.linking "replay" "Game" .manyToOne)).withRelationship
        { Relationship.linking "guests" "Team" (.manyToMany "") with
          description := some "it's; /* done */" }).withRelationship
        (.linking "hosts" "Team" (.manyToMany "booking")),
    (Entity.named "Team").withField
      { Field.named "motto" .string with
        columnName := "motto\"; --"
        indexed := true
        defaultValue := some (.string "we're; \"one\"")
        description := some "ends here */;" },
    (Entity.named "Booking").inNamespace "play; off"]

/-- A script is generated for the league. -/
theorem exists_generate_leagueModel :
    ∃ script, Script.generate leagueModel Target.standard = .ok script := by
  apply exists_of_isOk
  decide +kernel

theorem leagueModel_valid :
    leagueModel.validate = .ok () := by
  obtain ⟨_, generated⟩ := exists_generate_leagueModel
  obtain ⟨_, made, _⟩ := Script.plan_of_generate generated
  exact Model.validate_eq_ok_iff.mpr (Plan.planOf_of_ofModel made).wellFormed

end SchemaScript
