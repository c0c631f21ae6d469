import SchemaScript.Proofs.Script.Statements
import SchemaScript.Proofs.TableUnit.ForeignKeys
import SchemaScript.Proofs.TableUnit.Junction

/-!
# Columns that deletions clear

A foreign key can ask that its column becomes null when the row it refers to
is deleted, which only works when the column can be null.  A relationship that
asks for this is not required, but a field that is declared for it need not
allow nulls, and the columns of join tables never do.
-/

namespace SchemaScript

open Sql TableUnit

/-! ## Columns -/

/-- Whether the definition of a column forbids nulls, as every key that a database assigns does. -/
def Sql.ColumnBody.forbidsNull : ColumnBody → Bool
  | .generated _ => true
  | .plain _ notNull _ _ _ => notNull

/-- Whether a column has to become null when the row it refers to is deleted, and cannot. -/
def Sql.Column.cannotBeCleared (column : Column) : Bool :=
  column.body.forbidsNull && column.reference.any fun key => key.onDelete == .setNull

/-- A field allows nulls if the relationship that it carries clears its column. -/
def Entity.Clearable (entity : Entity) (field : Field) : Prop :=
  ∀ relationship,
    field.isReference = true →
    entity.relationshipFor? field = some relationship →
    relationship.dbConstraint = true →
    relationship.onDelete = .setNull →
      field.nullable = true

/-- No relationship of a model has to clear a column that forbids nulls. -/
structure Model.Clearable (model : Model) : Prop where
  fields : ∀ entity ∈ model.entities, ∀ field ∈ entity.fields, entity.Clearable field
  joins :
    ∀ owner ∈ model.entities, ∀ relationship ∈ joiningRelationships model owner,
      relationship.dbConstraint = true → relationship.onDelete ≠ .setNull

namespace TableUnit

variable {model : Model} {database : Database} {entity : Entity} {field : Field}
  {relationship : Relationship} {column : Column}

/-- The column of a field that carries an enforced relationship shows the key of this one. -/
theorem ColumnOf.exists_reference
    (columnOf : ColumnOf model database entity field column)
    (isReference : field.isReference = true)
    (carried : entity.relationshipFor? field = some relationship)
    (enforced : relationship.dbConstraint = true) :
    ∃ key, column.reference = some key ∧ key.onDelete = relationship.onDelete := by
  have shown := columnOf.reference
  simp only [shownReference, isReference, if_true, foreignKey?, carried, enforced,
    bind_eq_ok_iff, Except.ok.injEq] at shown
  obtain ⟨_, _, _, _, same⟩ := shown
  exact ⟨_, same.symm, rfl⟩

/-- The column of a field that refers to another one forbids nulls as the field does. -/
theorem ColumnOf.forbidsNull_eq
    (columnOf : ColumnOf model database entity field column)
    (isReference : field.isReference = true) :
    column.body.forbidsNull = !field.nullable := by
  obtain ⟨_, _, _, said⟩ := columnOf.body_of_isReference isReference
  rw [said]
  rfl

/-- The column of a field can be cleared when it has to be exactly when the field is clearable. -/
theorem ColumnOf.cannotBeCleared_eq_false_iff
    (columnOf : ColumnOf model database entity field column) :
    column.cannotBeCleared = false ↔ entity.Clearable field := by
  rw [Column.cannotBeCleared, Bool.and_eq_false_imp]
  constructor
  · intro cleared relationship isReference carried enforced setsNull
    obtain ⟨key, shows, action⟩ := columnOf.exists_reference isReference carried enforced
    by_contra notNullable
    have forbids : column.body.forbidsNull = true := by
      rw [columnOf.forbidsNull_eq isReference, Bool.eq_false_iff.mpr notNullable]
      rfl
    have notCleared := cleared forbids
    simp [shows, action, setsNull] at notCleared
  · intro clearable forbids
    cases shows : column.reference with
    | none =>
        rfl
    | some key =>
        have reference := columnOf.reference
        rw [shows, shownReference_eq_some_iff] at reference
        obtain ⟨isReference, relationship, carried, enforced, keyOf⟩ := reference
        by_cases setsNull : relationship.onDelete = .setNull
        · have nullable := clearable relationship isReference carried enforced setsNull
          rw [columnOf.forbidsNull_eq isReference, nullable] at forbids
          cases forbids
        · simp [keyOf.onDelete, setsNull]

/-- The column of a join table forbids nulls, so that no key may clear it. -/
theorem StandsFor.cannotBeCleared_eq_false_iff
    {table : String}
    {side : JoinSide}
    (standsFor : StandsFor model database table relationship side column) :
    column.cannotBeCleared = false ↔
      (relationship.dbConstraint = true → relationship.onDelete ≠ .setNull) := by
  obtain ⟨key, _, ⟨_, _, body⟩, reference⟩ := standsFor.holdsKey
  rw [Column.cannotBeCleared, body, reference]
  by_cases enforced : relationship.dbConstraint <;>
    simp [enforced, ColumnBody.forbidsNull, sideKey]

end TableUnit

/-! ## Fields -/

/-- A relationship that clears its column is not required. -/
theorem Relationship.required_eq_false_of_setNull
    {relationship : Relationship}
    (valid : relationship.validate = .ok ())
    (isReference : relationship.isReference = true)
    (setsNull : relationship.onDelete = .setNull) :
    relationship.required = false := by
  simp only [validate, bind_eq_ok_iff, require_eq_ok_iff] at valid
  obtain ⟨_, _, _, _, _, notRequired, _⟩ := valid
  simpa [setsNull, isReference] using notRequired

/-- A field that allows nulls as far as its relationship is not required is clearable. -/
theorem Entity.WellFormed.clearable
    {entity : Entity}
    (wellFormed : entity.WellFormed)
    {field : Field}
    {relationship : Relationship}
    (carried : entity.relationshipFor? field = some relationship)
    (alike : field.nullable = !relationship.required) :
    entity.Clearable field := by
  intro other _ otherCarried _ setsNull
  rw [carried, Option.some.injEq] at otherCarried
  subst otherCarried
  obtain ⟨declared, isReference⟩ :=
    mem_singleValued.mp (mem_singleValued_of_relationshipFor? carried).1
  have valid := wellFormed.relationshipsValid relationship declared
  rw [alike, Relationship.required_eq_false_of_setNull valid isReference setsNull]
  rfl

/-! ## Scripts -/

/-- The tables of a plan can be cleared where they have to be exactly when the model allows it. -/
theorem Plan.PlanOf.cannotBeCleared_eq_false_iff
    {model : Model}
    {database : Database}
    {plan : Plan}
    (planOf : PlanOf model database plan) :
    (∀ table ∈ plan.tableDefinitions, ∀ column ∈ table.columns,
        column.cannotBeCleared = false) ↔ model.Clearable := by
  constructor
  · intro cleared
    constructor
    · intro entity member field fieldMember
      obtain ⟨table, created, tableOf⟩ := planOf.exists_tableOf member
      obtain ⟨column, columnMember, columnOf⟩ :=
        exists_right_of_forall₂ tableOf.columns fieldMember
      exact columnOf.cannotBeCleared_eq_false_iff.mp (cleared table created column columnMember)
    · intro owner member relationship joins
      obtain ⟨table, created, join, joinOf, blockOf⟩ := planOf.exists_joinOf member joins
      obtain ⟨target, standFor⟩ := joinOf.exists_standsFor blockOf
      obtain ⟨column, columnMember, stands⟩ :=
        exists_right_of_forall₂ standFor List.mem_cons_self
      exact stands.cannotBeCleared_eq_false_iff.mp (cleared table created column columnMember)
  · intro clearable table created column columnMember
    rcases planOf.tableDefinition_cases created with
      ⟨entity, member, tableOf⟩ | ⟨owner, member, relationship, joins, join, joinOf, blockOf⟩
    · obtain ⟨field, fieldMember, columnOf⟩ :=
        exists_left_of_forall₂ tableOf.columns columnMember
      exact columnOf.cannotBeCleared_eq_false_iff.mpr
        (clearable.fields entity member field fieldMember)
    · obtain ⟨target, standFor⟩ := joinOf.exists_standsFor blockOf
      obtain ⟨side, _, stands⟩ := exists_left_of_forall₂ standFor columnMember
      exact stands.cannotBeCleared_eq_false_iff.mpr
        (clearable.joins owner member relationship joins)

/--
No column of a script has to become null although it cannot, exactly when the
fields that carry relationships with this action allow nulls and no join table
is made for one.  Fields that allow nulls as far as their relationships are
not required, as those do that are added for relationships, are no obstacle.
-/
theorem generate_clearable_iff
    {model : Model}
    {target : Target}
    {script : Script}
    (generated : Script.generate model target = .ok script) :
    ∃ plan, Plan.ofModel model target.database = .ok plan ∧
      script = Script.ofPlan model.info.name target plan ∧
      ((∀ table ∈ plan.tableDefinitions, ∀ column ∈ table.columns,
          column.cannotBeCleared = false) ↔ model.Clearable) ∧
      ∀ entity ∈ model.entities, ∀ field relationship,
        entity.relationshipFor? field = some relationship →
        field.nullable = !relationship.required →
          entity.Clearable field := by
  obtain ⟨plan, made, written⟩ := Script.plan_of_generate generated
  have planOf := Plan.planOf_of_ofModel made
  refine ⟨plan, made, written, planOf.cannotBeCleared_eq_false_iff, ?_⟩
  intro entity member field relationship carried alike
  exact (planOf.wellFormed.entityFormed member).clearable carried alike

/-- When the keeper of a dog is deleted, the dog has none. -/
def keeper : Relationship :=
  { Relationship.linking "keeper" "Person" .manyToOne with
    required := false
    onDelete := .setNull }

/-- Dogs with the field that is added for their keeper. -/
def dog : Entity :=
  (Entity.named "Dog").withRelationship keeper

/-- A model of persons and dogs. -/
def shelterModel : Model where
  info := .named "Shelter"
  entities := [Entity.named "Person", dog]

/-- The column that holds the keeper of a dog can be cleared. -/
theorem generate_clearable_iff_shelterModel :
    (∃ script, Script.generate shelterModel Target.standard = .ok script ∧
      ∃ plan, Plan.ofModel shelterModel Target.standard.database = .ok plan ∧
        script = Script.ofPlan shelterModel.info.name Target.standard plan ∧
        ((∀ table ∈ plan.tableDefinitions, ∀ column ∈ table.columns,
            column.cannotBeCleared = false) ↔ shelterModel.Clearable) ∧
        ∀ entity ∈ shelterModel.entities, ∀ field relationship,
          entity.relationshipFor? field = some relationship →
          field.nullable = !relationship.required →
            entity.Clearable field) ∧
      dog ∈ shelterModel.entities ∧
      dog.relationshipFor? keeper.referenceField = some keeper ∧
      keeper.referenceField.nullable = !keeper.required ∧
      dog.Clearable keeper.referenceField := by
  have written : ∃ script, Script.generate shelterModel Target.standard = .ok script := by
    apply exists_of_isOk
    decide +kernel
  obtain ⟨script, generated⟩ := written
  have concluded := generate_clearable_iff generated
  have member : dog ∈ shelterModel.entities :=
    List.mem_cons_of_mem _ List.mem_cons_self
  have carried : dog.relationshipFor? keeper.referenceField = some keeper := by
    decide +kernel
  have alike : keeper.referenceField.nullable = !keeper.required := rfl
  refine ⟨⟨script, generated, concluded⟩, member, carried, alike, ?_⟩
  obtain ⟨_, _, _, _, clearable⟩ := concluded
  exact clearable dog member _ _ carried alike

/-- A model whose dogs declare the field of their keeper, which forbids nulls. -/
def strictShelterModel : Model where
  info := .named "Shelter"
  entities := [
    Entity.named "Person",
    ((Entity.named "Dog").withField
      (.named "keeper_id" (.reference "Person" ""))).withRelationship keeper]

/-- A model whose dogs are walked by many persons. -/
def walkingModel : Model where
  info := .named "Walking"
  entities := [
    Entity.named "Person",
    (Entity.named "Dog").withRelationship
      { Relationship.linking "walkers" "Person" (.manyToMany "") with onDelete := .setNull }]

/-- A script is written for a model although one of its columns cannot become null as it has to. -/
def Model.WrittenUncleared (model : Model) : Prop :=
  ∃ script plan, Script.generate model Target.standard = .ok script ∧
    Plan.ofModel model Target.standard.database = .ok plan ∧
    ∃ table ∈ plan.tableDefinitions, ∃ column ∈ table.columns,
      column.cannotBeCleared = true

/-- The column of a field that is declared so cannot be cleared, and neither can a join table's. -/
theorem shelterModels_not_cleared :
    strictShelterModel.WrittenUncleared ∧ walkingModel.WrittenUncleared := by
  constructor
  · apply Script.exists_of_plan
    decide +kernel
  · apply Script.exists_of_plan
    decide +kernel

end SchemaScript
