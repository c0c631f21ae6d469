import SchemaScript.Proofs.Plan
import SchemaScript.Proofs.TableUnit.Blocks

/-!
# The foreign keys of a script

Each table of a script has the foreign keys that its entity's relationships
declare, as far as every relationship is alone with its field, and a column
with a key has the type of the column that it refers to, as far as its field
refers to the same one.  The checks of a model ask for neither, so that a
script can lose a key, repeat it, or give it to a column of another type.
-/

namespace SchemaScript

open Sql TableUnit

/-! ## Tables of entities -/

/-- A plan creates a table of an entity with one of its units. -/
structure Plan.CreatesTable (model : Model) (database : Database) (plan : Plan) (entity : Entity)
    (table : TableDefinition) : Prop where
  tableOf : TableOf model database entity table
  created : ∃ unit ∈ plan.units, unit.id = entity.tableId ∧ BlockOf table unit.body

/-- A plan creates the table of every entity. -/
theorem Plan.PlanOf.exists_createsTable
    {model : Model}
    {database : Database}
    {plan : Plan}
    (planOf : PlanOf model database plan)
    {entity : Entity}
    (member : entity ∈ model.entities) :
    ∃ table, CreatesTable model database plan entity table := by
  obtain ⟨unit, placed, unitOf⟩ := planOf.unit_of_entity member
  obtain ⟨table, tableOf, blockOf, _⟩ := unitOf.blockOf
  exact ⟨table, tableOf, unit, placed, unitOf.id, blockOf⟩

/-! ## Keys and relationships -/

/-- The foreign keys of a table are those that the relationships of its entity declare. -/
structure TableUnit.KeysDeclared (model : Model) (entity : Entity) (table : TableDefinition) :
    Prop where
  inPlace :
    ∀ column ∈ table.columns, ∀ key, column.reference = some key → key.column = column.name
  /-- A field carries the first relationship that it answers to. -/
  carried :
    ∀ key, key ∈ table.foreignKeys ↔
      ∃ field ∈ entity.fields, field.isReference = true ∧
        ∃ relationship, entity.relationshipFor? field = some relationship ∧
          relationship.dbConstraint = true ∧ KeyOf model entity relationship field key
  /-- One key belongs to each relationship that is enforced. -/
  complete :
    entity.SoleOwners →
      ∃ keys, keys.Perm table.foreignKeys ∧
        List.Forall₂ (OwnsKey model entity) entity.enforced keys

/--
Every foreign key in the table of an entity is that of a relationship which
one of its fields carries, and stands on the column of this field.  When each
relationship is alone with its field, the keys are those of the single-valued
relationships that the database enforces, one for each and no others.
-/
theorem generate_keysDeclared
    {model : Model}
    {target : Target}
    {script : Script}
    (generated : Script.generate model target = .ok script) :
    ∃ plan, Plan.ofModel model target.database = .ok plan ∧
      script = Script.ofPlan model.info.name target plan ∧
      ∀ entity ∈ model.entities,
        ∃ table, Plan.CreatesTable model target.database plan entity table ∧
          KeysDeclared model entity table := by
  obtain ⟨plan, made, written⟩ := Script.plan_of_generate generated
  have planOf := Plan.planOf_of_ofModel made
  refine ⟨plan, made, written, ?_⟩
  intro entity member
  obtain ⟨table, creates⟩ := planOf.exists_createsTable member
  have tableOf := creates.tableOf
  refine ⟨table, creates, ?_⟩
  refine {
    inPlace := fun column columnMember key shown => tableOf.key_column columnMember shown
    carried := ?_
    complete := fun soleOwners => tableOf.perm_foreignKeys planOf.wellFormed member soleOwners }
  intro key
  rw [tableOf.mem_foreignKeys_iff]
  simp only [shownReference_eq_some_iff]

/-- The relationships of a league own their fields alone, and each of them has its key. -/
theorem generate_keysDeclared_leagueModel :
    ∃ script, Script.generate leagueModel Target.standard = .ok script ∧
      (∃ plan, Plan.ofModel leagueModel Target.standard.database = .ok plan ∧
        script = Script.ofPlan leagueModel.info.name Target.standard plan ∧
        ∀ entity ∈ leagueModel.entities,
          ∃ table, Plan.CreatesTable leagueModel Target.standard.database plan entity table ∧
            KeysDeclared leagueModel entity table) ∧
      ∀ entity ∈ leagueModel.entities, entity.SoleOwners := by
  obtain ⟨script, generated⟩ := exists_generate_leagueModel
  refine ⟨script, generated, generate_keysDeclared generated, ?_⟩
  have fieldsDistinct :
      ∀ entity ∈ leagueModel.entities, (entity.singleValued.map (·.fieldName)).Nodup := by
    decide +kernel
  have columnsApart :
      ∀ entity ∈ leagueModel.entities, ∀ relationship ∈ entity.singleValued,
        ∀ field ∈ entity.fields, field.isReference = true →
          field.columnName = relationship.fieldName → field.name = relationship.fieldName := by
    decide +kernel
  exact fun entity member => ⟨fieldsDistinct entity member, columnsApart entity member⟩

/-- Two relationships of loans own the same field. -/
def libraryLoan : Entity :=
  ((Entity.named "Loan").withRelationship
      { Relationship.linking "person" "Person" .manyToOne with
        fromField := "holder_id" }).withRelationship
      { Relationship.linking "club" "Club" .manyToOne with
        fromField := "holder_id" }

/-- A column of deposits has the name of another field, which a relationship owns. -/
def libraryDeposit : Entity :=
  (((Entity.named "Deposit").withField
      { Field.named "owner_id" (.reference "Person" "") with
        columnName := "owner_key" }).withField
      { Field.named "backup" (.reference "Person" "") with
        columnName := "owner_id" }).withRelationship
      (.linking "owner" "Person" .manyToOne)

/-- A model whose relationships are not alone with their fields. -/
def libraryModel : Model where
  info := .named "Library"
  entities := [Entity.named "Person", Entity.named "Club", libraryLoan, libraryDeposit]

/--
The table of loans lacks the key to clubs, and that of deposits has a key
which no relationship declares, although the script is written.
-/
theorem libraryModel_keys_not_owned :
    ∃ script plan, Script.generate libraryModel Target.standard = .ok script ∧
      Plan.ofModel libraryModel Target.standard.database = .ok plan ∧
      ∀ entity ∈ [libraryLoan, libraryDeposit], entity ∈ libraryModel.entities ∧
        ∃ table, Plan.CreatesTable libraryModel Target.standard.database plan entity table ∧
          ¬ ∃ keys, keys.Perm table.foreignKeys ∧
            List.Forall₂ (OwnsKey libraryModel entity) entity.enforced keys := by
  have written : ∃ script, Script.generate libraryModel Target.standard = .ok script := by
    apply exists_of_isOk
    decide +kernel
  obtain ⟨script, generated⟩ := written
  obtain ⟨plan, made, _⟩ := Script.plan_of_generate generated
  refine ⟨script, plan, generated, made, ?_⟩
  intro entity listed
  have declared : entity ∈ libraryModel.entities :=
    List.mem_cons_of_mem _ (List.mem_cons_of_mem _ listed)
  obtain ⟨table, creates⟩ := (Plan.planOf_of_ofModel made).exists_createsTable declared
  refine ⟨declared, table, creates, ?_⟩
  rintro ⟨keys, sameKeys, owned⟩
  -- one key instead of two for loans, two instead of one for deposits
  have counted :
      ∀ entity ∈ [libraryLoan, libraryDeposit],
        (entity.fields.filterMap fun field =>
          (shownReference libraryModel entity field).toOption.join).length ≠
            entity.enforced.length := by
    decide +kernel
  apply counted entity listed
  rw [← creates.tableOf.foreignKeys_eq_filterMap, ← sameKeys.length_eq, owned.length_eq]

/-! ## Keys and types -/

/--
A column with a foreign key is that of a field which carries the key's
relationship, and it has the type of what the key refers to if its field
refers there, too.
-/
def TableUnit.KeyTyped (model : Model) (database : Database) (entity : Entity)
    (column : Column) (key : ForeignKey) : Prop :=
  ∃ field ∈ entity.fields, field.columnName = column.name ∧
    ∃ relationship, entity.relationshipFor? field = some relationship ∧
      KeyOf model entity relationship field key ∧
      (RefersAlike model field relationship → TypedAsTarget model database column key)

/--
Every column with a foreign key has the type of the column that the key refers
to when the field and the relationship that it carries refer to the same field.
-/
theorem generate_keysTyped
    {model : Model}
    {target : Target}
    {script : Script}
    (generated : Script.generate model target = .ok script) :
    ∃ plan, Plan.ofModel model target.database = .ok plan ∧
      script = Script.ofPlan model.info.name target plan ∧
      ∀ entity ∈ model.entities,
        ∃ table, Plan.CreatesTable model target.database plan entity table ∧
          ∀ column ∈ table.columns, ∀ key, column.reference = some key →
            KeyTyped model target.database entity column key := by
  obtain ⟨plan, made, written⟩ := Script.plan_of_generate generated
  have planOf := Plan.planOf_of_ofModel made
  refine ⟨plan, made, written, ?_⟩
  intro entity member
  obtain ⟨table, creates⟩ := planOf.exists_createsTable member
  refine ⟨table, creates, ?_⟩
  intro column columnMember key shown
  obtain ⟨field, fieldMember, columnOf⟩ :=
    exists_left_of_forall₂ creates.tableOf.columns columnMember
  have reference := columnOf.reference
  rw [shown, shownReference_eq_some_iff] at reference
  obtain ⟨_, relationship, carried, _, keyOf⟩ := reference
  exact ⟨field, fieldMember, columnOf.name.symm, relationship, carried, keyOf,
    fun alike => columnOf.typedAsTarget planOf.wellFormed keyOf alike⟩

/--
The fields of a league refer as their relationships do, so that all keys have
the right types.
-/
theorem generate_keysTyped_leagueModel :
    ∃ script, Script.generate leagueModel Target.standard = .ok script ∧
      (∃ plan, Plan.ofModel leagueModel Target.standard.database = .ok plan ∧
        script = Script.ofPlan leagueModel.info.name Target.standard plan ∧
        ∀ entity ∈ leagueModel.entities,
          ∃ table, Plan.CreatesTable leagueModel Target.standard.database plan entity table ∧
            ∀ column ∈ table.columns, ∀ key, column.reference = some key →
              KeyTyped leagueModel Target.standard.database entity column key) ∧
      ∀ entity ∈ leagueModel.entities, ∀ field ∈ entity.fields, ∀ relationship,
        entity.relationshipFor? field = some relationship →
          RefersAlike leagueModel field relationship := by
  obtain ⟨script, generated⟩ := exists_generate_leagueModel
  refine ⟨script, generated, generate_keysTyped generated, ?_⟩
  have declaredAlike :
      ∀ entity ∈ leagueModel.entities, ∀ field ∈ entity.fields,
        ∀ relationship ∈ entity.relationshipFor? field,
          field.dataType = relationship.referenceField.dataType := by
    decide +kernel
  intro entity member field fieldMember relationship carried
  exact
    refersAlike_of_dataType_eq (declaredAlike entity member field fieldMember relationship carried)

/-- The field that holds the person of a loan is declared to refer to a club. -/
def clubLoanHolder : Field :=
  .named "holder_id" (.reference "Club" "")

/-- A loan, which its relationship says is held by a person. -/
def clubLoan : Entity :=
  { (Entity.named "Loan").withField clubLoanHolder with
    relationships := [.linking "holder" "Person" .manyToOne] }

/-- A model whose clubs have keys of another type than its persons. -/
def clubModel : Model where
  info := .named "Clubs"
  entities := [Entity.named "Person", (Entity.named "Club").withPrimaryKey Field.uuidKey, clubLoan]

/-- The column of loans that refers to persons has the type of the keys of clubs. -/
theorem clubModel_key_not_typed :
    ∃ script plan, Script.generate clubModel Target.standard = .ok script ∧
      Plan.ofModel clubModel Target.standard.database = .ok plan ∧
      clubLoan ∈ clubModel.entities ∧
        ∃ table, Plan.CreatesTable clubModel Target.standard.database plan clubLoan table ∧
          ∃ column ∈ table.columns, ∃ key, column.reference = some key ∧
            ¬ TypedAsTarget clubModel Target.standard.database column key := by
  have written : ∃ script, Script.generate clubModel Target.standard = .ok script := by
    apply exists_of_isOk
    decide +kernel
  obtain ⟨script, generated⟩ := written
  obtain ⟨plan, made, _⟩ := Script.plan_of_generate generated
  have declared : clubLoan ∈ clubModel.entities := by
    simp [clubModel]
  obtain ⟨table, creates⟩ := (Plan.planOf_of_ofModel made).exists_createsTable declared
  have member : clubLoanHolder ∈ clubLoan.fields :=
    List.mem_append_right _ List.mem_cons_self
  obtain ⟨column, columnMember, columnOf⟩ :=
    exists_right_of_forall₂ creates.tableOf.columns member
  let key : ForeignKey :=
    { fromTable := "loan"
      column := "holder_id"
      target := .unqualified "person"
      targetColumn := "id"
      onDelete := .cascade }
  have shown : shownReference clubModel clubLoan clubLoanHolder = .ok (some key) := by
    decide +kernel
  have said :
      columnBody clubModel Target.standard.database clubLoanHolder =
        .ok (.plain "UUID" true false false none) := by
    decide +kernel
  have integer :
      clubModel.columnType Target.standard.database Field.generatedKey = .ok "INT" := by
    decide +kernel
  rw [columnOf.reference, Except.ok.injEq] at shown
  rw [columnOf.body, Except.ok.injEq] at said
  refine ⟨script, plan, generated, made, declared, table, creates, column, columnMember, key,
    shown, ?_⟩
  intro typed
  obtain ⟨sqlType, ⟨_, _, _, _, sameBody⟩, targetTyped⟩ :=
    typed.sameType (Entity.named "Person") List.mem_cons_self (by decide +kernel)
      Field.generatedKey List.mem_cons_self (by decide +kernel)
  rw [integer, Except.ok.injEq] at targetTyped
  subst targetTyped
  rw [said] at sameBody
  simp at sameBody

end SchemaScript
