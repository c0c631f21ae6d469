import Mathlib.Data.List.Nodup
import SchemaScript.Entity.Validation
import SchemaScript.Proofs.Outcome

/-!
# Well-formed entities

What a field and an entity keep when they pass their checks.  The checks stop
at the first rule that is broken; from the outside this says that all of them
are kept.
-/

namespace SchemaScript.Field

/-- What a field keeps when it passes its checks. -/
structure WellFormed (field : Field) : Prop where
  nameGiven : field.name ≠ ""
  nameIdentifier : Text.isIdentifier field.name = true
  columnNameGiven : field.columnName ≠ ""
  generatedIsKey : field.generated = true → field.isPrimaryKey = true
  generatedHasNoDefault : field.isGeneratedKey = true → field.defaultValue = none
  keyNotNull : field.isPrimaryKey = true → field.nullable = false
  lengthPositive : field.dataType ≠ .varchar 0

/-- A field passes its checks exactly when it is well-formed. -/
theorem validate_eq_ok_iff
    {field : Field}
    {outcome : Unit} :
    field.validate = .ok outcome ↔ field.WellFormed := by
  simp only [validate, bind_eq_ok_iff, require_eq_ok_iff, Bool.not_eq_true', bne_iff_ne,
    String.isEmpty_eq_false_iff, Bool.and_eq_false_imp, Bool.not_eq_false',
    Option.isSome_eq_false_iff, Option.isNone_iff_eq_none]
  constructor
  · rintro
      ⟨_, nameGiven, _, nameIdentifier, _, columnNameGiven, _, generatedIsKey, _,
        generatedHasNoDefault, _, keyNotNull, lengthPositive⟩
    exact {
      nameGiven
      nameIdentifier
      columnNameGiven
      generatedIsKey
      generatedHasNoDefault
      keyNotNull
      lengthPositive }
  · intro wellFormed
    exact
      ⟨(), wellFormed.nameGiven, (), wellFormed.nameIdentifier, (), wellFormed.columnNameGiven,
        (), wellFormed.generatedIsKey, (), wellFormed.generatedHasNoDefault, (),
        wellFormed.keyNotNull, wellFormed.lengthPositive⟩

end SchemaScript.Field

namespace SchemaScript.Entity

/-- Every name of a list finds a field. -/
def Covered (entity : Entity) (names : List String) : Prop :=
  ∀ name ∈ names, ∃ field, entity.findField? name = some field

/-- The field that a single-valued relationship names is there and holds a reference. -/
def OwnerFound (entity : Entity) (relationship : Relationship) : Prop :=
  relationship.isReference = true →
    ∃ field, entity.fieldNamed? relationship.fieldName = some field ∧ field.isReference = true

/-- What an entity keeps when it passes its checks. -/
structure WellFormed (entity : Entity) : Prop where
  nameGiven : entity.name ≠ ""
  nameIdentifier : Text.isIdentifier entity.name = true
  tableNameGiven : entity.tableName ≠ ""
  onePrimaryKey : entity.primaryKeyCount = 1
  fieldsValid : ∀ field ∈ entity.fields, field.WellFormed
  fieldNamesDistinct : (entity.fields.map (·.name)).Nodup
  columnNamesDistinct : (entity.fields.map (·.columnName)).Nodup
  relationshipsValid : ∀ relationship ∈ entity.relationships, relationship.validate = .ok ()
  ownersFound : ∀ relationship ∈ entity.relationships, entity.OwnerFound relationship
  groupsValid : ∀ group ∈ entity.uniqueTogether, group.validate = .ok ()
  groupsCovered : ∀ group ∈ entity.uniqueTogether, entity.Covered group.fields
  indexesValid : ∀ index ∈ entity.indexes, index.validate = .ok ()
  indexesCovered : ∀ index ∈ entity.indexes, entity.Covered index.fields

/-- Fields of a well-formed entity that have one name are the same. -/
theorem WellFormed.eq_of_name_eq
    {entity : Entity}
    (wellFormed : entity.WellFormed)
    {field other : Field}
    (member : field ∈ entity.fields)
    (otherMember : other ∈ entity.fields)
    (sameName : field.name = other.name) :
    field = other :=
  List.inj_on_of_nodup_map wellFormed.fieldNamesDistinct member otherMember sameName

/-- Fields of a well-formed entity that have one column are the same. -/
theorem WellFormed.eq_of_columnName_eq
    {entity : Entity}
    (wellFormed : entity.WellFormed)
    {field other : Field}
    (member : field ∈ entity.fields)
    (otherMember : other ∈ entity.fields)
    (sameColumn : field.columnName = other.columnName) :
    field = other :=
  List.inj_on_of_nodup_map wellFormed.columnNamesDistinct member otherMember sameColumn

/-! ## The checks one by one -/

/-- A name is resolved exactly to the field that it finds. -/
theorem resolveField_eq_ok_iff
    {entity : Entity}
    {name : String}
    {field : Field} :
    entity.resolveField name = .ok field ↔ entity.findField? name = some field := by
  simp only [resolveField]
  cases entity.findField? name <;> simp

/-- Fields are distinct when they differ from each other and from those seen before. -/
theorem checkDistinctFields_eq_ok_iff
    {entity : Entity}
    {names columns : List String}
    {fields : List Field}
    {outcome : Unit} :
    entity.checkDistinctFields names columns fields = .ok outcome ↔
      ((fields.map (·.name)).Nodup ∧ ∀ field ∈ fields, field.name ∉ names) ∧
        (fields.map (·.columnName)).Nodup ∧ ∀ field ∈ fields, field.columnName ∉ columns := by
  induction fields generalizing names columns with
  | nil =>
      simp [checkDistinctFields]
  | cons first later inductionHypothesis =>
      by_cases nameSeen : first.name ∈ names
      · simp [checkDistinctFields, nameSeen]
      · by_cases columnSeen : first.columnName ∈ columns
        · simp [checkDistinctFields, nameSeen, columnSeen]
        · simp only [checkDistinctFields, List.contains_eq_mem, nameSeen, columnSeen,
            decide_false, Bool.false_eq_true, if_false, inductionHypothesis, List.map_cons,
            List.nodup_cons, List.mem_map, List.mem_cons, forall_eq_or_imp, not_or, not_exists,
            not_and]
          grind

/-- A field passes the check of its entity exactly when it is well-formed. -/
theorem checkField_eq_ok_iff
    {entity : Entity}
    {field : Field}
    {outcome : Unit} :
    entity.checkField field = .ok outcome ↔ field.WellFormed := by
  have passes : field.validate = .ok () ↔ field.WellFormed := Field.validate_eq_ok_iff
  rw [← passes, checkField]
  cases field.validate <;> simp

/-- A relationship passes exactly when it keeps its own rules and has its field. -/
theorem checkRelationship_eq_ok_iff
    {entity : Entity}
    {relationship : Relationship}
    {outcome : Unit} :
    entity.checkRelationship relationship = .ok outcome ↔
      relationship.validate = .ok () ∧ entity.OwnerFound relationship := by
  simp only [checkRelationship, bind_eq_ok_iff, OwnerFound, Unique.exists_iff,
    PUnit.default_eq_unit]
  by_cases reference : relationship.isReference
  · cases entity.fieldNamed? relationship.fieldName <;>
      simp [reference, require_eq_ok_iff]
  · simp [reference]

/-- Names pass exactly when all of them find fields. -/
theorem checkNames_eq_ok_iff
    {entity : Entity}
    {names : List String}
    {outcome : Unit} :
    entity.checkNames names = .ok outcome ↔ entity.Covered names := by
  simp only [checkNames, checkAll_eq_ok_iff, Covered, ← resolveField_eq_ok_iff]
  refine forall₂_congr fun name _ => ?_
  cases entity.resolveField name <;> simp

/-- A part passes exactly when it keeps its own rules and its names find fields. -/
theorem checkCovering_eq_ok_iff
    {entity : Entity}
    {own : Except SchemaError Unit}
    {names : List String}
    {outcome : Unit} :
    entity.checkCovering own names = .ok outcome ↔ own = .ok () ∧ entity.Covered names := by
  cases own <;> simp [checkCovering, checkNames_eq_ok_iff]

/-! ## Whole entities -/

/-- An entity passes its checks exactly when it is well-formed. -/
theorem validate_eq_ok_iff
    {entity : Entity}
    {outcome : Unit} :
    entity.validate = .ok outcome ↔ entity.WellFormed := by
  simp only [validate, bind_eq_ok_iff, require_eq_ok_iff, checkAll_eq_ok_iff,
    checkDistinctFields_eq_ok_iff, checkField_eq_ok_iff, checkRelationship_eq_ok_iff,
    checkCovering_eq_ok_iff, Bool.not_eq_true', String.isEmpty_eq_false_iff, bne_iff_ne,
    beq_iff_eq, List.not_mem_nil, not_false_eq_true, implies_true, and_true, forall_and]
  constructor
  · rintro
      ⟨_, nameGiven, _, nameIdentifier, _, tableNameGiven, _, _, _, onePrimaryKey, _,
        fieldsValid, _, ⟨fieldNamesDistinct, columnNamesDistinct⟩, _,
        ⟨relationshipsValid, ownersFound⟩, _, ⟨groupsValid, groupsCovered⟩, indexesValid,
        indexesCovered⟩
    exact {
      nameGiven
      nameIdentifier
      tableNameGiven
      onePrimaryKey
      fieldsValid
      fieldNamesDistinct
      columnNamesDistinct
      relationshipsValid
      ownersFound
      groupsValid
      groupsCovered
      indexesValid
      indexesCovered }
  · intro wellFormed
    have someKey : entity.primaryKeyCount ≠ 0 := by
      rw [wellFormed.onePrimaryKey]
      decide
    exact
      ⟨(), wellFormed.nameGiven, (), wellFormed.nameIdentifier, (), wellFormed.tableNameGiven,
        (), someKey, (), wellFormed.onePrimaryKey, (), wellFormed.fieldsValid, (),
        ⟨wellFormed.fieldNamesDistinct, wellFormed.columnNamesDistinct⟩, (),
        ⟨wellFormed.relationshipsValid, wellFormed.ownersFound⟩, (),
        ⟨wellFormed.groupsValid, wellFormed.groupsCovered⟩, wellFormed.indexesValid,
        wellFormed.indexesCovered⟩

end SchemaScript.Entity

namespace SchemaScript

/-! ## What groups and indexes list -/

/-- A unique group keeps its rules exactly when it lists something. -/
theorem UniqueGroup.validate_eq_ok_iff
    {group : UniqueGroup}
    {outcome : Unit} :
    group.validate = .ok outcome ↔ group.fields ≠ [] := by
  simp [validate, require_eq_ok_iff]

/-- An index keeps its rules exactly when it lists something and its name is not empty. -/
theorem Index.validate_eq_ok_iff
    {index : Index}
    {outcome : Unit} :
    index.validate = .ok outcome ↔ index.fields ≠ [] ∧ index.name ≠ some "" := by
  simp [validate, bind_eq_ok_iff, require_eq_ok_iff]

end SchemaScript
