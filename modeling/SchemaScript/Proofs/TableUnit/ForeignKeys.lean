import Mathlib.Data.List.Perm.Basic
import SchemaScript.Proofs.Entity.Resolution
import SchemaScript.Proofs.Model.ColumnType
import SchemaScript.Proofs.TableUnit.Assembly

/-!
# Foreign keys of tables

Relationships declare foreign keys, and columns show them: a column shows the
key of the first relationship that its field answers to, by its own name or by
that of the column.  The two views agree when every relationship is alone with
its field; each relationship that the database enforces then has one key.
-/

namespace SchemaScript

namespace Entity

/-! ## Relationships and the fields that carry them -/

/-- The relationships that own a column. -/
def singleValued (entity : Entity) : List Relationship :=
  entity.relationships.filter (·.isReference)

/-- The relationships that own a column and that the database enforces. -/
def enforced (entity : Entity) : List Relationship :=
  entity.singleValued.filter (·.dbConstraint)

/--
Every relationship is alone with its field: no other relationship owns the
field, and no other field that holds a reference has its name as a column.
-/
structure SoleOwners (entity : Entity) : Prop where
  fieldsDistinct : (entity.singleValued.map (·.fieldName)).Nodup
  columnsApart :
    ∀ relationship ∈ entity.singleValued, ∀ field ∈ entity.fields,
      field.isReference = true → field.columnName = relationship.fieldName →
        field.name = relationship.fieldName

variable {entity : Entity} {field : Field} {relationship : Relationship}

/-- The single-valued relationships are those that refer to one entity. -/
theorem mem_singleValued :
    relationship ∈ entity.singleValued ↔
      relationship ∈ entity.relationships ∧ relationship.isReference = true :=
  List.mem_filter

/-- The enforced relationships are the single-valued ones that ask for a foreign key. -/
theorem mem_enforced :
    relationship ∈ entity.enforced ↔
      relationship ∈ entity.singleValued ∧ relationship.dbConstraint = true :=
  List.mem_filter

/-- A relationship that a field carries owns a column, and the field answers to it. -/
theorem mem_singleValued_of_relationshipFor?
    (carried : entity.relationshipFor? field = some relationship) :
    relationship ∈ entity.singleValued ∧ field.answersTo relationship.fieldName = true := by
  have passes := List.find?_some carried
  rw [Bool.and_eq_true] at passes
  exact ⟨mem_singleValued.mpr ⟨List.mem_of_find?_eq_some carried, passes.1⟩, passes.2⟩

/-- A relationship that is alone with its field is the one that the field carries. -/
theorem SoleOwners.relationshipFor?_eq_some_iff
    (soleOwners : entity.SoleOwners)
    (member : field ∈ entity.fields)
    (isReference : field.isReference = true) :
    entity.relationshipFor? field = some relationship ↔
      relationship ∈ entity.singleValued ∧ field.name = relationship.fieldName := by
  have name_of_answersTo
      {other : Relationship}
      (owns : other ∈ entity.singleValued)
      (answers : field.answersTo other.fieldName = true) :
      field.name = other.fieldName := by
    rcases Field.answersTo_eq_true_iff.mp answers with byName | byColumn
    · exact byName
    · exact soleOwners.columnsApart other owns field member isReference byColumn
  constructor
  · intro carried
    obtain ⟨owns, answers⟩ := mem_singleValued_of_relationshipFor? carried
    exact ⟨owns, name_of_answersTo owns answers⟩
  · intro ⟨owns, sameName⟩
    obtain ⟨declared, isOwner⟩ := mem_singleValued.mp owns
    apply find?_eq_some_of_unique declared
    · simp [isOwner, Field.answersTo, sameName]
    · intro other otherDeclared passes
      rw [Bool.and_eq_true] at passes
      have otherOwns := mem_singleValued.mpr ⟨otherDeclared, passes.1⟩
      have otherName := name_of_answersTo otherOwns passes.2
      exact
        List.inj_on_of_nodup_map soleOwners.fieldsDistinct otherOwns owns
          (otherName.symm.trans sameName)

end Entity

namespace TableUnit

open Sql

variable {model : Model} {database : Database} {entity : Entity} {field : Field}
  {relationship : Relationship} {key : ForeignKey}

/-! ## Keys of relationships -/

/-- A foreign key on a field's column is that of a relationship. -/
structure KeyOf (model : Model) (entity : Entity) (relationship : Relationship) (field : Field)
    (key : ForeignKey) : Prop where
  fromTable : key.fromTable = entity.tableName
  column : key.column = field.columnName
  onDelete : key.onDelete = relationship.onDelete
  target :
    ∃ target, model.requireEntity relationship.toEntity = .ok target ∧
      key.target = target.tableId ∧
      ∃ targetField, target.referencedField relationship.targetField? = .ok targetField ∧
        key.targetColumn = targetField.columnName

/-- A foreign key is that of a relationship on the column of the field that it owns. -/
def OwnsKey (model : Model) (entity : Entity) (relationship : Relationship)
    (key : ForeignKey) : Prop :=
  ∃ field, entity.fieldNamed? relationship.fieldName = some field ∧
    KeyOf model entity relationship field key

/-- A relationship has one key on a column. -/
theorem KeyOf.eq
    (keyOf : KeyOf model entity relationship field key)
    {other : ForeignKey}
    (otherOf : KeyOf model entity relationship field other) :
    key = other := by
  obtain ⟨target, found, toTarget, targetField, fieldFound, toColumn⟩ := keyOf.target
  obtain ⟨_, otherFound, otherToTarget, _, otherFieldFound, otherToColumn⟩ := otherOf.target
  rw [found, Except.ok.injEq] at otherFound
  subst otherFound
  rw [fieldFound, Except.ok.injEq] at otherFieldFound
  subst otherFieldFound
  have sameTable : key.fromTable = other.fromTable :=
    keyOf.fromTable.trans otherOf.fromTable.symm
  have sameColumn : key.column = other.column :=
    keyOf.column.trans otherOf.column.symm
  have sameDelete : key.onDelete = other.onDelete :=
    keyOf.onDelete.trans otherOf.onDelete.symm
  have sameTarget : key.target = other.target :=
    toTarget.trans otherToTarget.symm
  have sameTargetColumn : key.targetColumn = other.targetColumn :=
    toColumn.trans otherToColumn.symm
  cases key
  cases other
  rw [ForeignKey.mk.injEq]
  exact ⟨sameTable, sameColumn, sameTarget, sameTargetColumn, sameDelete⟩

/-- A relationship owns at most one foreign key. -/
theorem OwnsKey.eq
    (ownsKey : OwnsKey model entity relationship key)
    {other : ForeignKey}
    (otherOwnsKey : OwnsKey model entity relationship other) :
    key = other := by
  obtain ⟨field, named, keyOf⟩ := ownsKey
  obtain ⟨_, otherNamed, otherOf⟩ := otherOwnsKey
  rw [named, Option.some.injEq] at otherNamed
  subst otherNamed
  exact keyOf.eq otherOf

/-- A column shows the key of the relationship that its field carries, if that is enforced. -/
theorem shownReference_eq_some_iff :
    shownReference model entity field = .ok (some key) ↔
      field.isReference = true ∧
        ∃ relationship, entity.relationshipFor? field = some relationship ∧
          relationship.dbConstraint = true ∧ KeyOf model entity relationship field key := by
  simp only [shownReference, foreignKey?]
  by_cases isReference : field.isReference
  · cases carried : entity.relationshipFor? field with
    | none =>
        simp [isReference]
    | some relationship =>
        by_cases enforced : relationship.dbConstraint
        · simp only [isReference, enforced, if_true, bind_eq_ok_iff, Option.some.injEq, true_and,
            exists_eq_left']
          constructor
          · rintro ⟨target, found, targetField, fieldFound, same⟩
            cases same
            exact ⟨rfl, rfl, rfl, target, found, rfl, targetField, fieldFound, rfl⟩
          · rintro ⟨fromTable, column, onDelete, target, found, sameTarget, targetField,
              fieldFound, sameColumn⟩
            refine ⟨target, found, targetField, fieldFound, ?_⟩
            rw [← fromTable, ← column, ← onDelete, ← sameTarget, ← sameColumn]
        · simp [isReference, enforced]
  · simp [isReference]

/-! ## Keys of tables -/

/-- The keys of a table stand on different columns when its columns have different names. -/
theorem keyColumns_nodup_of_columns
    {table : TableDefinition}
    (inPlace :
      ∀ column ∈ table.columns, ∀ key, column.reference = some key → key.column = column.name)
    (columnsDistinct : (table.columns.map (·.name)).Nodup) :
    (table.foreignKeys.map (·.column)).Nodup := by
  rw [TableDefinition.foreignKeys, List.Nodup, List.pairwise_map, List.pairwise_filterMap]
  apply (List.pairwise_map.mp columnsDistinct).imp_of_mem
  intro first second firstMember secondMember different key shown other otherShown same
  apply different
  rw [← inPlace first firstMember key shown, same, inPlace second secondMember other otherShown]

/-- A key stands on the column whose name it has. -/
theorem TableOf.key_column
    {table : TableDefinition}
    (tableOf : TableOf model database entity table)
    {column : Column}
    (member : column ∈ table.columns)
    (shown : column.reference = some key) :
    key.column = column.name := by
  obtain ⟨field, _, columnOf⟩ := exists_left_of_forall₂ tableOf.columns member
  have reference := columnOf.reference
  rw [shown] at reference
  obtain ⟨_, _, _, _, keyOf⟩ := shownReference_eq_some_iff.mp reference
  exact keyOf.column.trans columnOf.name.symm

/-- The keys of an entity's table stand on different columns. -/
theorem TableOf.keyColumns_nodup
    {table : TableDefinition}
    (tableOf : TableOf model database entity table)
    (wellFormed : entity.WellFormed) :
    (table.foreignKeys.map (·.column)).Nodup := by
  apply keyColumns_nodup_of_columns
  · intro column member key shown
    exact tableOf.key_column member shown
  · have inOrder : table.columns.map (·.name) = entity.fields.map (·.columnName) :=
      map_eq_of_forall₂ tableOf.columns fun _ _ columnOf => columnOf.name
    rw [inOrder]
    exact wellFormed.columnNamesDistinct

/-- No foreign key is repeated, since no column is. -/
theorem TableOf.foreignKeys_nodup
    {table : TableDefinition}
    (tableOf : TableOf model database entity table)
    (wellFormed : entity.WellFormed) :
    table.foreignKeys.Nodup :=
  (tableOf.keyColumns_nodup wellFormed).of_map _

section SoleOwners

variable (wellFormed : entity.WellFormed) (soleOwners : entity.SoleOwners)

include wellFormed soleOwners

/-- The keys of a table are those that the enforced relationships own. -/
theorem TableOf.mem_foreignKeys_iff_ownsKey
    {table : TableDefinition}
    (tableOf : TableOf model database entity table) :
    key ∈ table.foreignKeys ↔
      ∃ relationship ∈ entity.enforced, OwnsKey model entity relationship key := by
  rw [tableOf.mem_foreignKeys_iff]
  constructor
  · intro ⟨field, member, shown⟩
    obtain ⟨isReference, relationship, carried, enforced, keyOf⟩ :=
      shownReference_eq_some_iff.mp shown
    obtain ⟨owns, sameName⟩ :=
      (soleOwners.relationshipFor?_eq_some_iff member isReference).mp carried
    have named := wellFormed.fieldNamed?_eq_some_iff.mpr ⟨member, sameName⟩
    exact ⟨relationship, Entity.mem_enforced.mpr ⟨owns, enforced⟩, field, named, keyOf⟩
  · intro ⟨relationship, listed, field, named, keyOf⟩
    obtain ⟨owns, enforced⟩ := Entity.mem_enforced.mp listed
    obtain ⟨declared, isOwner⟩ := Entity.mem_singleValued.mp owns
    obtain ⟨member, sameName⟩ := wellFormed.fieldNamed?_eq_some_iff.mp named
    have isReference : field.isReference = true := by
      obtain ⟨owned, found, holds⟩ := wellFormed.ownersFound relationship declared isOwner
      rw [named] at found
      cases found
      exact holds
    have carried :=
      (soleOwners.relationshipFor?_eq_some_iff member isReference).mpr ⟨owns, sameName⟩
    exact
      ⟨field, member,
        shownReference_eq_some_iff.mpr ⟨isReference, relationship, carried, enforced, keyOf⟩⟩

/-- Relationships that are alone with their fields share no key. -/
theorem eq_of_ownsKey
    {other : Relationship}
    (owns : relationship ∈ entity.singleValued)
    (otherOwns : other ∈ entity.singleValued)
    (ownsKey : OwnsKey model entity relationship key)
    (otherOwnsKey : OwnsKey model entity other key) :
    relationship = other := by
  obtain ⟨field, named, keyOf⟩ := ownsKey
  obtain ⟨otherField, otherNamed, otherOf⟩ := otherOwnsKey
  obtain ⟨member, sameName⟩ := wellFormed.fieldNamed?_eq_some_iff.mp named
  obtain ⟨otherMember, otherName⟩ := wellFormed.fieldNamed?_eq_some_iff.mp otherNamed
  have sameField : field = otherField :=
    wellFormed.eq_of_columnName_eq member otherMember
      (keyOf.column.symm.trans otherOf.column)
  subst sameField
  exact
    List.inj_on_of_nodup_map soleOwners.fieldsDistinct owns otherOwns
      (sameName.symm.trans otherName)

end SoleOwners

/-- A relationship of a well-formed model has a key. -/
theorem exists_ownsKey
    (wellFormed : model.WellFormed)
    (member : entity ∈ model.entities)
    (owns : relationship ∈ entity.singleValued) :
    ∃ key, OwnsKey model entity relationship key := by
  obtain ⟨declared, isOwner⟩ := Entity.mem_singleValued.mp owns
  obtain ⟨field, named, _⟩ :=
    (wellFormed.entityFormed member).ownersFound relationship declared isOwner
  obtain ⟨target, found, targetField, fieldFound⟩ :=
    wellFormed.linksFound entity member relationship declared
  let key : ForeignKey :=
    { fromTable := entity.tableName
      column := field.columnName
      target := target.tableId
      targetColumn := targetField.columnName
      onDelete := relationship.onDelete }
  exact ⟨key, field, named, rfl, rfl, rfl, target, found, rfl, targetField, fieldFound, rfl⟩

/-- Every enforced relationship has exactly one key when each is alone with its field. -/
theorem TableOf.perm_foreignKeys
    (wellFormed : model.WellFormed)
    (member : entity ∈ model.entities)
    (soleOwners : entity.SoleOwners)
    {table : TableDefinition}
    (tableOf : TableOf model database entity table) :
    ∃ keys, keys.Perm table.foreignKeys ∧
      List.Forall₂ (OwnsKey model entity) entity.enforced keys := by
  have entityFormed := wellFormed.entityFormed member
  have owns : ∀ relationship ∈ entity.enforced, relationship ∈ entity.singleValued :=
    fun _ listed => (Entity.mem_enforced.mp listed).1
  obtain ⟨keys, related⟩ :=
    exists_forall₂ fun relationship listed =>
      exists_ownsKey wellFormed member (owns relationship listed)
  have keysDistinct : keys.Nodup := by
    have relationshipsDistinct : entity.enforced.Nodup :=
      (soleOwners.fieldsDistinct.of_map _).filter _
    have oneToOne :
        Relator.BiUnique fun relationship key =>
          relationship ∈ entity.enforced ∧ OwnsKey model entity relationship key := by
      constructor
      · intro relationship other key ⟨listed, ownsKey⟩ ⟨otherListed, otherOwnsKey⟩
        exact
          eq_of_ownsKey entityFormed soleOwners (owns relationship listed)
            (owns other otherListed) ownsKey otherOwnsKey
      · intro relationship key other ⟨_, ownsKey⟩ ⟨_, otherOwnsKey⟩
        exact ownsKey.eq otherOwnsKey
    have listedRelated :=
      (List.forall₂_and_left entity.enforced keys).mpr ⟨fun _ listed => listed, related⟩
    exact (List.rel_nodup oneToOne listedRelated).mp relationshipsDistinct
  refine ⟨keys, ?_, related⟩
  -- both lists hold each key once, so that the same members make them a permutation
  rw [List.perm_ext_iff_of_nodup keysDistinct (tableOf.foreignKeys_nodup entityFormed)]
  intro key
  rw [tableOf.mem_foreignKeys_iff_ownsKey entityFormed soleOwners]
  constructor
  · exact exists_left_of_forall₂ related
  · intro ⟨relationship, listed, ownsKey⟩
    obtain ⟨other, otherMember, otherOwnsKey⟩ := exists_right_of_forall₂ related listed
    rw [ownsKey.eq otherOwnsKey]
    exact otherMember

/-! ## Types of columns with keys -/

/-- The definition of a column begins with the name of a type. -/
def HasType (column : Column) (sqlType : String) : Prop :=
  ∃ notNull unique primaryKey literal,
    column.body = .plain sqlType notNull unique primaryKey literal

/-- A field refers to the same field as a relationship. -/
def RefersAlike (model : Model) (field : Field) (relationship : Relationship) : Prop :=
  ∃ other name, field.dataType = .reference other name ∧
    model.referencedBy other name =
      model.referencedBy relationship.toEntity relationship.toField

/-- A field with the type of the one that is added for a relationship refers as this does. -/
theorem refersAlike_of_dataType_eq
    (sameType : field.dataType = relationship.referenceField.dataType) :
    RefersAlike model field relationship :=
  ⟨relationship.toEntity, relationship.toField, sameType, rfl⟩

/-- A column has the type of the column that a key refers to, which is one of the model. -/
structure TypedAsTarget (model : Model) (database : Database) (column : Column)
    (key : ForeignKey) : Prop where
  declared :
    ∃ owner ∈ model.entities, owner.tableId = key.target ∧
      ∃ target ∈ owner.fields, target.columnName = key.targetColumn
  sameType :
    ∀ owner ∈ model.entities, owner.tableId = key.target →
      ∀ target ∈ owner.fields, target.columnName = key.targetColumn →
        ∃ sqlType, HasType column sqlType ∧ model.columnType database target = .ok sqlType

/-- The column of a field that holds a reference says its type, and the rest as the field does. -/
theorem ColumnOf.body_of_isReference
    {column : Column}
    (columnOf : ColumnOf model database entity field column)
    (isReference : field.isReference = true) :
    ∃ sqlType literal?, model.columnType database field = .ok sqlType ∧
      column.body =
        .plain sqlType (!field.nullable) (field.unique && !field.isPrimaryKey)
          field.isPrimaryKey literal? := by
  rcases columnBody_cases columnOf.body with ⟨_, _, assigned, _⟩ | ⟨sqlType, _, typed, _, said⟩
  · have notReference := (Database.exists_sqlType_of_generatedKey? assigned).1
    rw [Field.isReference, notReference] at isReference
    cases isReference
  · exact ⟨sqlType, _, typed, said⟩

/-- The column of a field that holds a reference says its type. -/
theorem ColumnOf.hasType
    {column : Column}
    (columnOf : ColumnOf model database entity field column)
    (isReference : field.isReference = true) :
    ∃ sqlType, HasType column sqlType ∧ model.columnType database field = .ok sqlType := by
  obtain ⟨sqlType, _, typed, said⟩ := columnOf.body_of_isReference isReference
  exact ⟨sqlType, ⟨_, _, _, _, said⟩, typed⟩

/-- The key of a relationship refers to the column of the field that the relationship refers to. -/
theorem KeyOf.exists_target
    (keyOf : KeyOf model entity relationship field key) :
    ∃ owner ∈ model.entities, owner.tableId = key.target ∧
      ∃ target ∈ owner.fields, target.columnName = key.targetColumn ∧
        model.referencedBy relationship.toEntity relationship.toField = .ok target := by
  obtain ⟨owner, found, toTable, target, fieldFound, toColumn⟩ := keyOf.target
  refine
    ⟨owner, Model.mem_of_requireEntity found, toTable.symm, target,
      Entity.mem_of_referencedField fieldFound, toColumn.symm, ?_⟩
  rw [Model.referencedBy_eq_bind, found]
  exact fieldFound

/-- A column has the type of the column that its key refers to if its field refers there, too. -/
theorem ColumnOf.typedAsTarget
    (wellFormed : model.WellFormed)
    {column : Column}
    (columnOf : ColumnOf model database entity field column)
    (keyOf : KeyOf model entity relationship field key)
    (alike : RefersAlike model field relationship) :
    TypedAsTarget model database column key := by
  obtain ⟨owner, ownerMember, toTable, target, targetMember, toColumn, referenced⟩ :=
    keyOf.exists_target
  obtain ⟨other, name, refers, sameReference⟩ := alike
  have isReference : field.isReference = true := by
    rw [Field.isReference, refers]
    rfl
  obtain ⟨sqlType, hasType, typed⟩ := columnOf.hasType isReference
  obtain ⟨found, foundBy, targetTyped⟩ := Model.columnType_of_reference typed refers
  rw [sameReference, referenced, Except.ok.injEq] at foundBy
  subst foundBy
  refine {
    declared := ⟨owner, ownerMember, toTable, target, targetMember, toColumn⟩
    sameType := ?_ }
  intro otherOwner otherOwnerMember otherTable otherTarget otherTargetMember otherColumn
  have sameOwner : otherOwner = owner :=
    wellFormed.eq_of_tableId_eq otherOwnerMember ownerMember (otherTable.trans toTable.symm)
  subst sameOwner
  have sameTarget : otherTarget = target :=
    (wellFormed.entityFormed ownerMember).eq_of_columnName_eq otherTargetMember targetMember
      (otherColumn.trans toColumn.symm)
  subst sameTarget
  exact ⟨sqlType, hasType, targetTyped⟩

end TableUnit

end SchemaScript
