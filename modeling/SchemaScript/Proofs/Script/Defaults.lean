import SchemaScript.Proofs.Script.Statements
import SchemaScript.Proofs.TableUnit.Defaults
import SchemaScript.Proofs.TableUnit.Failure
import SchemaScript.Proofs.TableUnit.Junction

/-!
# Defaults of the columns of scripts

Some types do not allow that a column's definition shows a default.  Whether
one is shown is decided by the type that the field declares.  For a field that
refers to another one this is a reference, which allows it, whereas the column
has the type at the end of the references, which need not.
-/

namespace SchemaScript

open Sql TableUnit

/-! ## Types of columns -/

/-- A column of a table is that of a field, whose type ends in a given one. -/
def HasConcreteType (model : Model) (database : Database) (table : TableDefinition)
    (column : Column) (concrete : DataType) : Prop :=
  ∃ entity ∈ model.entities, TableOf model database entity table ∧
    ∃ field ∈ entity.fields, ColumnOf model database entity field column ∧
      model.concreteType field.dataType = .ok concrete

/-- The defaults that fields which refer to others write are allowed by the types these end in. -/
def Model.ReferencesAllowDefaults (model : Model) : Prop :=
  ∀ entity ∈ model.entities, ∀ field ∈ entity.fields,
    field.isReference = true → field.writesDefault = true →
      ∃ concrete, model.concreteType field.dataType = .ok concrete ∧
        concrete.inlinesDefault = true

namespace TableUnit

variable {model : Model} {database : Database} {entity : Entity} {field : Field}
  {table : TableDefinition} {column : Column} {relationship : Relationship}

/-- The columns of join tables show no defaults. -/
theorem StandsFor.not_showsDefault
    {name : String}
    {side : JoinSide}
    (standsFor : StandsFor model database name relationship side column) :
    ¬ column.body.ShowsDefault := by
  obtain ⟨_, _, ⟨_, typed, body⟩, _⟩ := standsFor.holdsKey
  have plainType := (Model.typeName_of_columnType typed).not_beginsDefault
  rw [body, ColumnBody.showsDefault_plain_iff plainType]
  exact nofun

/-- The column of a field shows a default exactly when the field writes one. -/
theorem ColumnOf.showsDefault_iff
    (columnOf : ColumnOf model database entity field column)
    (wellFormed : model.WellFormed)
    (member : entity ∈ model.entities)
    (fieldMember : field ∈ entity.fields) :
    column.body.ShowsDefault ↔ field.writesDefault = true := by
  have fieldFormed := (wellFormed.entityFormed member).fieldsValid field fieldMember
  exact columnBody_showsDefault_iff fieldFormed columnOf.body

/-- What a column's type ends in is known, and it is no reference. -/
theorem ColumnOf.exists_concreteType
    (columnOf : ColumnOf model database entity field column) :
    ∃ concrete, model.concreteType field.dataType = .ok concrete ∧
      concrete.isReference = false := by
  obtain ⟨_, typed⟩ := exists_columnType_of_columnBody columnOf.body
  obtain ⟨concrete, followed, _⟩ := Model.columnType_eq_ok_iff.mp typed
  exact ⟨concrete, followed, Model.not_isReference_of_followReferences followed⟩

/-- A field that refers to no other one writes a default only when its own type allows it. -/
theorem inlinesDefault_of_writesDefault
    {concrete : DataType}
    (followed : model.concreteType field.dataType = .ok concrete)
    (notReference : field.isReference = false)
    (writes : field.writesDefault = true) :
    concrete.inlinesDefault = true := by
  rw [Model.concreteType_of_not_isReference notReference, Except.ok.injEq] at followed
  rw [Field.writesDefault, Bool.and_eq_true] at writes
  rw [← followed]
  exact writes.1

/-- A column and its table belong to one field only, so that its type ends in one way. -/
theorem concreteType_of_hasConcreteType
    (wellFormed : model.WellFormed)
    (member : entity ∈ model.entities)
    (tableOf : TableOf model database entity table)
    (fieldMember : field ∈ entity.fields)
    (columnOf : ColumnOf model database entity field column)
    {concrete : DataType}
    (hasType : HasConcreteType model database table column concrete) :
    model.concreteType field.dataType = .ok concrete := by
  obtain ⟨other, otherMember, otherTableOf, otherField, otherFieldMember, otherColumnOf,
    followed⟩ := hasType
  have sameEntity : other = entity :=
    wellFormed.eq_of_tableId_eq otherMember member (otherTableOf.id.symm.trans tableOf.id)
  subst sameEntity
  have sameField : otherField = field :=
    (wellFormed.entityFormed member).eq_of_columnName_eq otherFieldMember fieldMember
      (otherColumnOf.name.symm.trans columnOf.name)
  subst sameField
  exact followed

end TableUnit

/-! ## Plans -/

namespace Plan.PlanOf

variable {model : Model} {database : Database} {plan : Plan}

/-- A default that a table shows is one that a field of an entity writes. -/
theorem exists_writesDefault
    (planOf : PlanOf model database plan)
    {table : TableDefinition}
    (created : table ∈ plan.tableDefinitions)
    {column : Column}
    (columnMember : column ∈ table.columns)
    (shows : column.body.ShowsDefault) :
    ∃ entity ∈ model.entities, TableOf model database entity table ∧
      ∃ field ∈ entity.fields, ColumnOf model database entity field column ∧
        field.writesDefault = true := by
  rcases planOf.tableDefinition_cases created with
    ⟨entity, member, tableOf⟩ | ⟨owner, member, relationship, joins, join, joinOf, blockOf⟩
  · obtain ⟨field, fieldMember, columnOf⟩ := exists_left_of_forall₂ tableOf.columns columnMember
    have writes := (columnOf.showsDefault_iff planOf.wellFormed member fieldMember).mp shows
    exact ⟨entity, member, tableOf, field, fieldMember, columnOf, writes⟩
  · obtain ⟨target, standFor⟩ := joinOf.exists_standsFor blockOf
    obtain ⟨side, _, stands⟩ := exists_left_of_forall₂ standFor columnMember
    exact (stands.not_showsDefault shows).elim

/-- Every default is allowed by the type of its column exactly when those of references are. -/
theorem defaultsAllowed_iff
    (planOf : PlanOf model database plan) :
    (∀ table ∈ plan.tableDefinitions, ∀ column ∈ table.columns, column.body.ShowsDefault →
        ∃ concrete, HasConcreteType model database table column concrete ∧
          concrete.inlinesDefault = true) ↔
      model.ReferencesAllowDefaults := by
  constructor
  · intro allowed entity member field fieldMember _ writes
    obtain ⟨table, created, tableOf⟩ := planOf.exists_tableOf member
    obtain ⟨column, columnMember, columnOf⟩ := exists_right_of_forall₂ tableOf.columns fieldMember
    have shows := (columnOf.showsDefault_iff planOf.wellFormed member fieldMember).mpr writes
    obtain ⟨concrete, hasType, inlines⟩ := allowed table created column columnMember shows
    have followed :=
      concreteType_of_hasConcreteType planOf.wellFormed member tableOf fieldMember columnOf
        hasType
    exact ⟨concrete, followed, inlines⟩
  · intro allowed table created column columnMember shows
    obtain ⟨entity, member, tableOf, field, fieldMember, columnOf, writes⟩ :=
      planOf.exists_writesDefault created columnMember shows
    have typed
        {concrete : DataType}
        (followed : model.concreteType field.dataType = .ok concrete) :
        HasConcreteType model database table column concrete :=
      ⟨entity, member, tableOf, field, fieldMember, columnOf, followed⟩
    by_cases refers : field.isReference = true
    · obtain ⟨concrete, followed, inlines⟩ := allowed entity member field fieldMember refers writes
      exact ⟨concrete, typed followed, inlines⟩
    · obtain ⟨concrete, followed, _⟩ := columnOf.exists_concreteType
      have notReference := Bool.eq_false_iff.mpr refers
      exact
        ⟨concrete, typed followed,
          inlinesDefault_of_writesDefault followed notReference writes⟩

end Plan.PlanOf

/-! ## Scripts -/

/--
A default that a script shows is one that a field writes, and if the field
refers to no other one then the type of its column allows it.  All defaults
are allowed by the types of their columns exactly when those of the fields
that refer to others are.
-/
theorem generate_defaultsAllowed_iff
    {model : Model}
    {target : Target}
    {script : Script}
    (generated : Script.generate model target = .ok script) :
    ∃ plan, Plan.ofModel model target.database = .ok plan ∧
      script = Script.ofPlan model.info.name target plan ∧
      (∀ table ∈ plan.tableDefinitions, ∀ column ∈ table.columns, column.body.ShowsDefault →
        ∃ entity ∈ model.entities, TableOf model target.database entity table ∧
          ∃ field ∈ entity.fields, ColumnOf model target.database entity field column ∧
            field.writesDefault = true ∧
            ∃ concrete, model.concreteType field.dataType = .ok concrete ∧
              concrete.isReference = false ∧
              (field.isReference = false → concrete.inlinesDefault = true)) ∧
      ((∀ table ∈ plan.tableDefinitions, ∀ column ∈ table.columns, column.body.ShowsDefault →
          ∃ concrete, HasConcreteType model target.database table column concrete ∧
            concrete.inlinesDefault = true) ↔
        model.ReferencesAllowDefaults) := by
  obtain ⟨plan, made, written⟩ := Script.plan_of_generate generated
  have planOf := Plan.planOf_of_ofModel made
  refine ⟨plan, made, written, ?_, planOf.defaultsAllowed_iff⟩
  intro table created column columnMember shows
  obtain ⟨entity, member, tableOf, field, fieldMember, columnOf, writes⟩ :=
    planOf.exists_writesDefault created columnMember shows
  obtain ⟨concrete, followed, ends⟩ := columnOf.exists_concreteType
  exact
    ⟨entity, member, tableOf, field, fieldMember, columnOf, writes, concrete, followed, ends,
      fun notReference => inlinesDefault_of_writesDefault followed notReference writes⟩

/-- The columns of a league that show defaults are of fields that may have them. -/
theorem generate_defaultsAllowed_iff_leagueModel :
    ∃ script, Script.generate leagueModel Target.standard = .ok script ∧
      ∃ plan, Plan.ofModel leagueModel Target.standard.database = .ok plan ∧
        script = Script.ofPlan leagueModel.info.name Target.standard plan ∧
        (∀ table ∈ plan.tableDefinitions, ∀ column ∈ table.columns,
          column.body.ShowsDefault →
            ∃ entity ∈ leagueModel.entities,
              TableOf leagueModel Target.standard.database entity table ∧
              ∃ field ∈ entity.fields,
                ColumnOf leagueModel Target.standard.database entity field column ∧
                field.writesDefault = true ∧
                ∃ concrete, leagueModel.concreteType field.dataType = .ok concrete ∧
                  concrete.isReference = false ∧
                  (field.isReference = false → concrete.inlinesDefault = true)) ∧
        ((∀ table ∈ plan.tableDefinitions, ∀ column ∈ table.columns,
            column.body.ShowsDefault →
              ∃ concrete,
                HasConcreteType leagueModel Target.standard.database table column concrete ∧
                concrete.inlinesDefault = true) ↔
          leagueModel.ReferencesAllowDefaults) := by
  obtain ⟨script, generated⟩ := exists_generate_leagueModel
  exact ⟨script, generated, generate_defaultsAllowed_iff generated⟩

/-- The borrower of a loan, who is nobody by default. -/
def borrowerField : Field :=
  { Field.named "borrower_id" (.reference "Member" "") with
    defaultValue := some (.string "nobody") }

/-- A loan with a borrower. -/
def loan : Entity :=
  (Entity.named "Loan").withField borrowerField

/-- Loans refer to members, whose key is a UUID. -/
def loanModel : Model where
  info := .named "Loans"
  entities := [(Entity.named "Member").withPrimaryKey .uuidKey, loan]

/-- A script is written in which a column has a default that its type does not allow. -/
theorem loanModel_default_not_allowed :
    ∃ script plan, Script.generate loanModel Target.standard = .ok script ∧
      Plan.ofModel loanModel Target.standard.database = .ok plan ∧
      ∃ table ∈ plan.tableDefinitions, ∃ column ∈ table.columns,
        column.body = .plain "UUID" true false false (some "'nobody'") ∧
          column.body.ShowsDefault ∧
          HasConcreteType loanModel Target.standard.database table column .uuid ∧
          DataType.uuid.inlinesDefault = false := by
  have generates : ∃ script, Script.generate loanModel Target.standard = .ok script := by
    apply exists_of_isOk
    decide +kernel
  obtain ⟨script, generated⟩ := generates
  obtain ⟨plan, made, _⟩ := Script.plan_of_generate generated
  have planOf := Plan.planOf_of_ofModel made
  have member : loan ∈ loanModel.entities := List.mem_cons_of_mem _ List.mem_cons_self
  have fieldMember : borrowerField ∈ loan.fields := List.mem_cons_of_mem _ List.mem_cons_self
  obtain ⟨table, created, tableOf⟩ := planOf.exists_tableOf member
  obtain ⟨column, columnMember, columnOf⟩ := exists_right_of_forall₂ tableOf.columns fieldMember
  have body : column.body = .plain "UUID" true false false (some "'nobody'") := by
    have said : columnBody loanModel .postgreSQL borrowerField =
        .ok (.plain "UUID" true false false (some "'nobody'")) := by
      decide +kernel
    exact Except.ok.inj (columnOf.body.symm.trans said)
  have shows : column.body.ShowsDefault :=
    (columnOf.showsDefault_iff planOf.wellFormed member fieldMember).mpr rfl
  exact
    ⟨script, plan, generated, made, table, created, column, columnMember, body, shows,
      ⟨loan, member, tableOf, borrowerField, fieldMember, columnOf, rfl⟩, rfl⟩

end SchemaScript
