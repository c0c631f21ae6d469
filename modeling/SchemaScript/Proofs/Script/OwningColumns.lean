import SchemaScript.Proofs.Script.Statements
import SchemaScript.Proofs.TableUnit.ForeignKeys

/-!
# The columns that relationships own

A relationship says whether its column may be empty, and a one-to-one
relationship that its column is unique.  The field that is added for a
relationship says the same.  A field that is there already is taken as it is,
be it declared or added for another relationship, and no check compares it
with the relationship, so that its column can say something else.
-/

namespace SchemaScript

open Sql TableUnit

/-! ## Words of columns -/

/-- The definition of a column has a word after the column's name. -/
def Sql.Column.Says (column : Column) (word : String) : Prop :=
  word ∈ column.body.words

/-- The words in which a column's definition restricts the column's values. -/
def Sql.ColumnBody.restrictions : List String :=
  ["NOT NULL", "UNIQUE", "PRIMARY KEY"]

/-- What ends in a bracket is none of these words. -/
theorem Sql.ColumnBody.append_not_mem_restrictions
    {text bracket : String}
    (closes : bracket = ")" ∨ bracket = "[]") :
    text ++ bracket ∉ restrictions := by
  have lasts :
      ∀ word ∈ restrictions,
        word.toList.getLast? ≠ some ')' ∧ word.toList.getLast? ≠ some ']' := by
    decide
  intro listed
  obtain ⟨notRound, notSquare⟩ := lasts _ listed
  rcases closes with rfl | rfl
  · exact notRound (by simp)
  · exact notSquare (by simp)

/-- The name of a type is none of the words that restrict values. -/
theorem Database.TypeName.not_mem_restrictions
    {name : String}
    (built : Database.TypeName name) :
    name ∉ ColumnBody.restrictions := by
  cases built with
  | plain listed =>
      have apart : ∀ name ∈ Database.plainTypeNames, name ∉ ColumnBody.restrictions := by
        decide
      exact apart name listed
  | sized size =>
      exact ColumnBody.append_not_mem_restrictions (.inl rfl)
  | decimal digits places =>
      exact ColumnBody.append_not_mem_restrictions (.inl rfl)
  | array inner =>
      exact ColumnBody.append_not_mem_restrictions (.inr rfl)

/-- A column that the database does not assign shows the restrictions that it has. -/
theorem Sql.ColumnBody.mem_words_of_plain
    {body : ColumnBody}
    {sqlType : String}
    {notNull unique primaryKey : Bool}
    {literal? : Option String}
    (said : body = .plain sqlType notNull unique primaryKey literal?)
    (plainType : sqlType ∉ restrictions) :
    ("NOT NULL" ∈ body.words ↔ notNull = true) ∧
      ("UNIQUE" ∈ body.words ↔ unique = true) ∧
      ("PRIMARY KEY" ∈ body.words ↔ primaryKey = true) := by
  subst said
  have otherType : ∀ word ∈ restrictions, word ≠ sqlType := by
    rintro word listed rfl
    exact plainType listed
  have notDefault : ∀ word ∈ restrictions, ∀ literal, "DEFAULT " ++ literal ≠ word := by
    have firsts : ∀ word ∈ restrictions, word.toList.head? ≠ some 'D' := by
      decide
    rintro _ listed literal rfl
    exact firsts _ listed (by simp)
  simp only [restrictions, List.mem_cons, List.not_mem_nil, or_false, forall_eq_or_imp,
    forall_eq] at otherType notDefault
  cases notNull <;> cases unique <;> cases primaryKey <;>
    simp [words, otherType, notDefault]

/-! ## Columns and relationships -/

/-- A column forbids nulls as a relationship requires, and is unique if this is one-to-one. -/
structure Sql.Column.DeclaredBy (column : Column) (relationship : Relationship) : Prop where
  required : column.Says "NOT NULL" ↔ relationship.required = true
  oneToOne :
    relationship.isOneToOne = true → column.Says "UNIQUE" ∨ column.Says "PRIMARY KEY"

/-- A field allows nulls and is unique as a relationship asks of it. -/
structure Field.Follows (field : Field) (relationship : Relationship) : Prop where
  nullable : field.nullable = !relationship.required
  unique : relationship.isOneToOne = true → field.unique = true ∨ field.isPrimaryKey = true

instance (field : Field) (relationship : Relationship) :
    Decidable (field.Follows relationship) :=
  decidable_of_iff
    (field.nullable = (!relationship.required) ∧
      (relationship.isOneToOne = true → field.unique = true ∨ field.isPrimaryKey = true))
    ⟨fun ⟨nullable, unique⟩ => ⟨nullable, unique⟩,
      fun follows => ⟨follows.nullable, follows.unique⟩⟩

/-- The field that is added for a relationship follows another one that asks for no more. -/
theorem Relationship.follows_referenceField_iff
    {relationship other : Relationship} :
    other.referenceField.Follows relationship ↔
      relationship.required = other.required ∧
        (relationship.isOneToOne = true → other.isOneToOne = true) := by
  constructor
  · intro follows
    have sameNulls : (!other.required) = !relationship.required := follows.nullable
    refine ⟨Bool.not_inj sameNulls.symm, ?_⟩
    intro oneToOne
    exact (follows.unique oneToOne).resolve_right Bool.false_ne_true
  · intro ⟨sameRequired, unique⟩
    exact {
      nullable := congrArg (!·) sameRequired.symm
      unique := fun oneToOne => .inl (unique oneToOne) }

namespace TableUnit

variable {model : Model} {database : Database} {entity : Entity} {field : Field}
  {relationship : Relationship} {column : Column}

/-- The column of a field that holds a reference restricts its values as the field does. -/
theorem ColumnOf.says_iff
    (columnOf : ColumnOf model database entity field column)
    (isReference : field.isReference = true) :
    (column.Says "NOT NULL" ↔ field.nullable = false) ∧
      (column.Says "UNIQUE" ↔ field.unique = true ∧ field.isPrimaryKey = false) ∧
      (column.Says "PRIMARY KEY" ↔ field.isPrimaryKey = true) := by
  obtain ⟨sqlType, _, typed, said⟩ := columnOf.body_of_isReference isReference
  have words :=
    ColumnBody.mem_words_of_plain said (Model.typeName_of_columnType typed).not_mem_restrictions
  simpa only [Column.Says, Bool.not_eq_true', Bool.and_eq_true] using words

/-- A column is what a relationship declares exactly when its field follows the relationship. -/
theorem ColumnOf.declaredBy_iff
    (columnOf : ColumnOf model database entity field column)
    (isReference : field.isReference = true) :
    column.DeclaredBy relationship ↔ field.Follows relationship := by
  obtain ⟨notNull, unique, primaryKey⟩ := columnOf.says_iff isReference
  constructor
  · intro ⟨required, oneToOne⟩
    refine ⟨?_, ?_⟩
    · rw [notNull] at required
      simpa using required
    · intro isOneToOne
      rcases oneToOne isOneToOne with saysUnique | saysKey
      · exact .inl (unique.mp saysUnique).1
      · exact .inr (primaryKey.mp saysKey)
  · intro ⟨nullable, isUnique⟩
    refine ⟨?_, ?_⟩
    · rw [notNull, nullable]
      simp
    · intro isOneToOne
      by_cases isKey : field.isPrimaryKey = true
      · exact .inr (primaryKey.mpr isKey)
      · have uniqueField := (isUnique isOneToOne).resolve_right isKey
        exact .inl (unique.mpr ⟨uniqueField, by simpa using isKey⟩)

/-- The column that a relationship owns, and whether it is what the relationship declares. -/
structure OwningColumn (model : Model) (database : Database) (entity : Entity)
    (relationship : Relationship) (field : Field) (column : Column) : Prop where
  owned : entity.fieldNamed? relationship.fieldName = some field
  columnOf : ColumnOf model database entity field column
  declaredBy_iff : column.DeclaredBy relationship ↔ field.Follows relationship
  /-- A field may have been added for this relationship or for another one. -/
  ofAdded :
    ∀ other : Relationship, field = other.referenceField →
      (column.DeclaredBy relationship ↔
        relationship.required = other.required ∧
          (relationship.isOneToOne = true → other.isOneToOne = true))

/-- Every relationship of a well-formed entity owns a column of its table. -/
theorem TableOf.exists_owningColumn
    {table : TableDefinition}
    (tableOf : TableOf model database entity table)
    (wellFormed : entity.WellFormed)
    (owns : relationship ∈ entity.singleValued) :
    ∃ field, ∃ column ∈ table.columns,
      OwningColumn model database entity relationship field column := by
  obtain ⟨declared, isOwner⟩ := Entity.mem_singleValued.mp owns
  obtain ⟨field, owned, isReference⟩ := wellFormed.ownersFound relationship declared isOwner
  have member := (wellFormed.fieldNamed?_eq_some_iff.mp owned).1
  obtain ⟨column, columnMember, columnOf⟩ := exists_right_of_forall₂ tableOf.columns member
  refine ⟨field, column, columnMember, owned, columnOf, columnOf.declaredBy_iff isReference, ?_⟩
  rintro other rfl
  exact (columnOf.declaredBy_iff isReference).trans Relationship.follows_referenceField_iff

end TableUnit

/-! ## Scripts -/

/--
The column that a relationship owns is what the relationship declares exactly
when its field allows nulls and is unique as the relationship asks.  The field
that is added for the relationship always does, but one that is declared, or
that was added for another relationship, has to do so by itself.
-/
theorem generate_owningColumns
    {model : Model}
    {target : Target}
    {script : Script}
    (generated : Script.generate model target = .ok script) :
    ∃ plan, Plan.ofModel model target.database = .ok plan ∧
      script = Script.ofPlan model.info.name target plan ∧
      ∀ entity ∈ model.entities,
        ∃ table ∈ plan.tableDefinitions, TableOf model target.database entity table ∧
          ∀ relationship ∈ entity.singleValued, ∃ field, ∃ column ∈ table.columns,
            OwningColumn model target.database entity relationship field column := by
  obtain ⟨plan, made, written⟩ := Script.plan_of_generate generated
  have planOf := Plan.planOf_of_ofModel made
  refine ⟨plan, made, written, ?_⟩
  intro entity member
  obtain ⟨table, created, tableOf⟩ := planOf.exists_tableOf member
  refine ⟨table, created, tableOf, ?_⟩
  intro relationship owns
  exact tableOf.exists_owningColumn (planOf.wellFormed.entityFormed member) owns

/-- Every passport has a holder of its own. -/
def holder : Relationship :=
  .linking "holder" "Person" .oneToOne

/-- A passport may have an issuer. -/
def issuer : Relationship :=
  { Relationship.linking "issuer" "Person" .manyToOne with required := false }

/-- A passport with both relationships. -/
def passport : Entity :=
  ((Entity.named "Passport").withRelationship holder).withRelationship issuer

/-- A model of persons and passports. -/
def passportModel : Model where
  info := .named "Passports"
  entities := [Entity.named "Person", passport]

/-- The columns that are added for the relationships of passports are what these declare. -/
theorem generate_owningColumns_passportModel :
    ∃ script plan, Script.generate passportModel Target.standard = .ok script ∧
      Plan.ofModel passportModel Target.standard.database = .ok plan ∧
      script = Script.ofPlan passportModel.info.name Target.standard plan ∧
      ∃ table ∈ plan.tableDefinitions,
        TableOf passportModel Target.standard.database passport table ∧
          ∀ relationship ∈ [holder, issuer], ∃ column ∈ table.columns,
            OwningColumn passportModel Target.standard.database passport relationship
              relationship.referenceField column ∧
            column.DeclaredBy relationship := by
  have generates : ∃ script, Script.generate passportModel Target.standard = .ok script := by
    apply exists_of_isOk
    decide +kernel
  obtain ⟨script, generated⟩ := generates
  obtain ⟨plan, made, written, owning⟩ := generate_owningColumns generated
  obtain ⟨table, created, tableOf, columns⟩ :=
    owning passport (List.mem_cons_of_mem _ List.mem_cons_self)
  refine ⟨script, plan, generated, made, written, table, created, tableOf, ?_⟩
  intro relationship listed
  obtain ⟨field, column, columnMember, owningColumn⟩ := columns relationship listed
  have added : field = relationship.referenceField := by
    have found :
        ∀ relationship ∈ [holder, issuer],
          passport.fieldNamed? relationship.fieldName = some relationship.referenceField := by
      simp only [List.forall_mem_cons]
      exact ⟨rfl, rfl, List.forall_mem_nil _⟩
    have owned := owningColumn.owned
    rw [found relationship listed, Option.some.injEq] at owned
    exact owned.symm
  subst added
  exact
    ⟨column, columnMember, owningColumn,
      (owningColumn.ofAdded relationship rfl).mpr ⟨rfl, fun oneToOne => oneToOne⟩⟩

/-- The holder of a desk is required, but the field that is declared for it allows nulls. -/
def desk : Entity :=
  ((Entity.named "Desk").withField
      { Field.named "holder_id" (.reference "Person" "") with
        nullable := true }).withRelationship
      (.linking "holder" "Person" .manyToOne)

/-- The holder of a badge has one only, but the field that is declared for it is not unique. -/
def badge : Entity :=
  ((Entity.named "Badge").withField
      (.named "holder_id" (.reference "Person" ""))).withRelationship holder

/-- The field of a locker is added for a relationship that shares it with a one-to-one one. -/
def locker : Entity :=
  ((Entity.named "Locker").withRelationship
      (.linking "holder" "Person" .manyToOne)).withRelationship
      { Relationship.linking "owner" "Person" .oneToOne with fromField := "holder_id" }

/-- A model of persons, desks, badges and lockers. -/
def officeModel : Model where
  info := .named "Office"
  entities := [Entity.named "Person", desk, badge, locker]

/-- A script is written for a model although columns are not what relationships declare. -/
theorem officeModel_columns_not_declared :
    ∃ script plan, Script.generate officeModel Target.standard = .ok script ∧
      Plan.ofModel officeModel Target.standard.database = .ok plan ∧
      ∀ entity ∈ [desk, badge, locker], entity ∈ officeModel.entities ∧
        ∃ table ∈ plan.tableDefinitions,
          TableOf officeModel Target.standard.database entity table ∧
            ∃ relationship ∈ entity.singleValued, ∃ field,
              entity.fieldNamed? relationship.fieldName = some field ∧
                ∃ column ∈ table.columns,
                  ColumnOf officeModel Target.standard.database entity field column ∧
                    ¬ column.DeclaredBy relationship := by
  have generates : ∃ script, Script.generate officeModel Target.standard = .ok script := by
    apply exists_of_isOk
    decide +kernel
  obtain ⟨script, generated⟩ := generates
  obtain ⟨plan, made, _⟩ := Script.plan_of_generate generated
  have planOf := Plan.planOf_of_ofModel made
  refine ⟨script, plan, generated, made, ?_⟩
  intro entity listed
  have declared : entity ∈ officeModel.entities :=
    List.mem_cons_of_mem _ listed
  obtain ⟨table, created, tableOf⟩ := planOf.exists_tableOf declared
  have strays :
      ∀ entity ∈ [desk, badge, locker], ∃ relationship ∈ entity.singleValued,
        ∀ field ∈ entity.fieldNamed? relationship.fieldName, ¬ field.Follows relationship := by
    decide +kernel
  obtain ⟨relationship, owns, strays⟩ := strays entity listed
  obtain ⟨field, column, columnMember, owningColumn⟩ :=
    tableOf.exists_owningColumn (planOf.wellFormed.entityFormed declared) owns
  have owned := owningColumn.owned
  refine
    ⟨declared, table, created, tableOf, relationship, owns, field, owned, column, columnMember,
      owningColumn.columnOf, ?_⟩
  rw [owningColumn.declaredBy_iff]
  exact strays field owned

end SchemaScript
