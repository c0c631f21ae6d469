import SchemaScript.Proofs.Model.ColumnType

/-!
# Outlines of entities

What one table can tell of another.  A reference finds an entity and a field by
their names and takes over names and types.  It does not look at what else a
column or a table says, so that entities of the same outline cannot be told
apart by it.
-/

namespace SchemaScript

/-! ## Outlines -/

/-- What a reference can tell of a field. -/
structure FieldOutline where
  name : String
  columnName : String
  dataType : DataType
  isPrimaryKey : Bool

/-- What a reference can tell of a relationship, which it may find a field by. -/
structure RelationshipOutline where
  name : String
  relationType : RelationType
  fieldName : String

/-- What a reference can tell of an entity. -/
structure EntityOutline where
  name : String
  tableName : String
  namespaceName? : Option String
  fields : List FieldOutline
  relationships : List RelationshipOutline

/-- The outline of a field. -/
def Field.outline (field : Field) : FieldOutline where
  name := field.name
  columnName := field.columnName
  dataType := field.dataType
  isPrimaryKey := field.isPrimaryKey

/-- The outline of a relationship; the field that owns it has a name even if that is derived. -/
def Relationship.outline (relationship : Relationship) : RelationshipOutline where
  name := relationship.name
  relationType := relationship.relationType
  fieldName := relationship.fieldName

/-- The outline of an entity. -/
def Entity.outline (entity : Entity) : EntityOutline where
  name := entity.name
  tableName := entity.tableName
  namespaceName? := entity.namespaceName?
  fields := entity.fields.map Field.outline
  relationships := entity.relationships.map Relationship.outline

/-- Two fields have the same outline. -/
def Field.Alike (field other : Field) : Prop :=
  other.outline = field.outline

/-- Two entities have the same outline. -/
def Entity.Alike (entity other : Entity) : Prop :=
  other.outline = entity.outline

/-- The entities of two models have the same outlines, one by one. -/
def Model.Alike (model other : Model) : Prop :=
  other.entities.map Entity.outline = model.entities.map Entity.outline

/-! ## Looking for marks -/

section Marks

variable {α β : Type} {mark : α → β}

/-- A test that sees marks only finds items of the same mark where the marks are the same. -/
theorem map_find?_eq
    {items others : List α}
    (same : others.map mark = items.map mark)
    (test : β → Bool) :
    (others.find? (test ∘ mark)).map mark = (items.find? (test ∘ mark)).map mark := by
  rw [← List.find?_map, same, List.find?_map]

/-- What has the same marks is found or missed in both places. -/
theorem found_or_missed
    {found other : Option α}
    (same : other.map mark = found.map mark) :
    (∃ item otherItem, found = some item ∧ other = some otherItem ∧
        mark otherItem = mark item) ∨
      found = none ∧ other = none := by
  cases found with
  | none =>
      exact .inr ⟨rfl, Option.map_eq_none_iff.mp same⟩
  | some item =>
      obtain ⟨otherItem, otherFound, sameMark⟩ := Option.map_eq_some_iff.mp same
      exact .inl ⟨item, otherItem, rfl, otherFound, sameMark⟩

end Marks

namespace Field.Alike

variable {field other : Field}

theorem columnName
    (alike : field.Alike other) :
    other.columnName = field.columnName :=
  congrArg FieldOutline.columnName alike

theorem dataType
    (alike : field.Alike other) :
    other.dataType = field.dataType :=
  congrArg FieldOutline.dataType alike

end Field.Alike

namespace Entity.Alike

variable {entity other : Entity}

theorem name
    (alike : entity.Alike other) :
    other.name = entity.name :=
  congrArg EntityOutline.name alike

theorem tableName
    (alike : entity.Alike other) :
    other.tableName = entity.tableName :=
  congrArg EntityOutline.tableName alike

theorem namespaceName?
    (alike : entity.Alike other) :
    other.namespaceName? = entity.namespaceName? :=
  congrArg EntityOutline.namespaceName? alike

/-- Entities that are alike have one table. -/
theorem tableId
    (alike : entity.Alike other) :
    other.tableId = entity.tableId := by
  rw [Entity.tableId, alike.namespaceName?, alike.tableName, Entity.tableId]

/-- Entities that are alike have fields with the same outlines. -/
theorem fields
    (alike : entity.Alike other) :
    other.fields.map Field.outline = entity.fields.map Field.outline :=
  congrArg EntityOutline.fields alike

/-- Entities that are alike have relationships with the same outlines. -/
theorem relationships
    (alike : entity.Alike other) :
    other.relationships.map Relationship.outline =
      entity.relationships.map Relationship.outline :=
  congrArg EntityOutline.relationships alike

/-! ## Fields that references point at -/

/-- Entities that are alike have keys with the same outline. -/
theorem primaryKey?
    (alike : entity.Alike other) :
    other.primaryKey?.map Field.outline = entity.primaryKey?.map Field.outline :=
  map_find?_eq alike.fields FieldOutline.isPrimaryKey

/-- One name finds fields with the same outline in entities that are alike. -/
theorem fieldNamed?
    (alike : entity.Alike other)
    (name : String) :
    (other.fieldNamed? name).map Field.outline = (entity.fieldNamed? name).map Field.outline :=
  map_find?_eq alike.fields fun outline => outline.name == name

/-- The field of a relationship is found by what its outline tells. -/
theorem relationshipField?
    (alike : entity.Alike other)
    (name : String) :
    (other.relationshipField? name).map Field.outline =
      (entity.relationshipField? name).map Field.outline := by
  have relationshipsFound :
      (other.relationships.find? fun each => each.isReference && each.name == name).map
          Relationship.outline =
        (entity.relationships.find? fun each => each.isReference && each.name == name).map
          Relationship.outline :=
    map_find?_eq alike.relationships
      fun outline => !outline.relationType.isManyToMany && outline.name == name
  rw [Entity.relationshipField?, Entity.relationshipField?]
  rcases found_or_missed relationshipsFound with
    ⟨relationship, otherRelationship, found, otherFound, same⟩ | ⟨missed, otherMissed⟩
  · have sameFieldName : otherRelationship.fieldName = relationship.fieldName :=
      congrArg RelationshipOutline.fieldName same
    rw [found, otherFound]
    simp only [sameFieldName]
    exact
      map_find?_eq alike.fields fun outline =>
        outline.name == relationship.fieldName || outline.columnName == relationship.fieldName
  · rw [missed, otherMissed]

/-- A name finds fields of the same outline in entities of the same outline. -/
theorem findField?
    (alike : entity.Alike other)
    (name : String) :
    (other.findField? name).map Field.outline = (entity.findField? name).map Field.outline := by
  have columnsFound :
      (other.fields.find? (·.columnName == name)).map Field.outline =
        (entity.fields.find? (·.columnName == name)).map Field.outline :=
    map_find?_eq alike.fields fun outline => outline.columnName == name
  simp only [Entity.findField?, Option.map_or, alike.fieldNamed?, columnsFound,
    alike.relationshipField?]

/-- References find fields of the same outline, or fail alike. -/
theorem referencedField
    (alike : entity.Alike other)
    (name? : Option String) :
    Agree Field.Alike (entity.referencedField name?) (other.referencedField name?) := by
  cases name? with
  | some name =>
      simp only [Entity.referencedField, resolveField, alike.name]
      rcases found_or_missed (alike.findField? name) with
        ⟨field, otherField, found, otherFound, same⟩ | ⟨missed, otherMissed⟩
      · rw [found, otherFound]
        exact .results same
      · rw [missed, otherMissed]
        exact .errors _
  | none =>
      simp only [Entity.referencedField, alike.name]
      rcases found_or_missed alike.primaryKey? with
        ⟨field, otherField, found, otherFound, same⟩ | ⟨missed, otherMissed⟩
      · rw [found, otherFound]
        exact .results same
      · rw [missed, otherMissed]
        exact .errors _

end Entity.Alike

namespace Model.Alike

variable {model other : Model} {database : Database}

/-! ## Entities -/

/-- One name finds entities that are alike in models that are, or fails in both. -/
theorem requireEntity
    (alike : model.Alike other)
    (name : String) :
    Agree Entity.Alike (model.requireEntity name) (other.requireEntity name) := by
  have entitiesFound :
      (other.entity? name).map Entity.outline = (model.entity? name).map Entity.outline :=
    map_find?_eq alike fun outline => outline.name == name
  simp only [Model.requireEntity]
  rcases found_or_missed entitiesFound with
    ⟨entity, otherEntity, found, otherFound, same⟩ | ⟨missed, otherMissed⟩
  · rw [found, otherFound]
    exact .results same
  · rw [missed, otherMissed]
    exact .errors _

/-- Models of the same outlines declare the same tables. -/
theorem isSome_entityOfTable?
    (alike : model.Alike other)
    (table : TableId) :
    (other.entityOfTable? table).isSome = (model.entityOfTable? table).isSome := by
  have entitiesFound :
      (other.entityOfTable? table).map Entity.outline =
        (model.entityOfTable? table).map Entity.outline :=
    map_find?_eq alike fun outline =>
      TableId.within outline.namespaceName? outline.tableName == table
  rw [← Option.isSome_map, entitiesFound, Option.isSome_map]

/-! ## Types -/

/-- A reference finds fields that are alike in models that are, or fails in both. -/
theorem referencedBy
    (alike : model.Alike other)
    (entity field : String) :
    Agree Field.Alike (model.referencedBy entity field) (other.referencedBy entity field) := by
  simp only [referencedBy_eq_bind]
  exact .bind (alike.requireEntity entity) fun _ _ entityAlike => entityAlike.referencedField _

/-- Chains of references lead to the same type in models of the same outlines. -/
theorem followReferences
    (alike : model.Alike other)
    {start dataType : DataType}
    {steps : Nat} :
    other.followReferences start steps dataType =
      model.followReferences start steps dataType := by
  induction steps generalizing dataType with
  | zero =>
      rfl
  | succ steps inductionHypothesis =>
      cases dataType with
      | reference entity field =>
          simp only [Model.followReferences]
          rcases (alike.referencedBy entity field).cases with
            ⟨target, otherTarget, found, otherFound, same⟩ | ⟨error, failed, otherFailed⟩
          · rw [found, otherFound]
            simp only [same.dataType, inductionHypothesis]
          · rw [failed, otherFailed]
      | _ =>
          rfl

/-- Fields of the same outline have columns of the same type. -/
theorem columnType
    (alike : model.Alike other)
    {field otherField : Field}
    (sameType : otherField.dataType = field.dataType) :
    other.columnType database otherField = model.columnType database field := by
  simp only [Model.columnType, concreteType, alike.followReferences, sameType]

/-- Keys have the same types in models that are alike. -/
theorem primaryKeyType
    (alike : model.Alike other)
    {entity otherEntity : Entity}
    (entityAlike : entity.Alike otherEntity) :
    other.primaryKeyType database otherEntity = model.primaryKeyType database entity := by
  simp only [Model.primaryKeyType]
  rcases (entityAlike.referencedField none).cases with
    ⟨key, otherKey, found, otherFound, same⟩ | ⟨error, failed, otherFailed⟩
  · rw [found, otherFound]
    exact alike.columnType same.dataType
  · rw [failed, otherFailed]

/-! ## Checks -/

/-- A reference leads to an entity in both of two models of the same outlines or in neither. -/
theorem checkReference
    (alike : model.Alike other)
    {field : Field} :
    other.checkReference field = model.checkReference field := by
  simp only [Model.checkReference]
  cases field.dataType with
  | reference entity _ =>
      dsimp only
      rcases (alike.requireEntity entity).cases with
        ⟨target, otherTarget, found, otherFound, _⟩ | ⟨error, failed, otherFailed⟩
      · rw [found, otherFound]
      · rw [failed, otherFailed]
  | _ =>
      rfl

/-- A relationship that finds its target finds it in every model that is alike. -/
theorem linkFound
    (alike : model.Alike other)
    {relationship : Relationship}
    (linked : model.LinkFound relationship) :
    other.LinkFound relationship := by
  obtain ⟨target, found, field, fieldFound⟩ := linked
  obtain ⟨otherTarget, otherFound, targetAlike⟩ :=
    (alike.requireEntity relationship.toEntity).exists_right found
  obtain ⟨otherField, otherFieldFound, _⟩ :=
    (targetAlike.referencedField relationship.targetField?).exists_right fieldFound
  exact ⟨otherTarget, otherFound, otherField, otherFieldFound⟩

end Model.Alike

end SchemaScript
