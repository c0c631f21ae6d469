import SchemaScript.Report.Rules
import SchemaScript.Proofs.Entity.WellFormed
import SchemaScript.Proofs.Model.WellFormed
import SchemaScript.Proofs.Report.Merging

/-!
# Reports of well-formed models

The rules of a report look at much of what the checks of a model look at, but
go on after something is wrong.  Each rule is valid exactly when its aspect of
the model is as it should be; the checks ask for at least as much, so the
report of a well-formed model holds no error.
-/

namespace SchemaScript.Rule

/-! ## The rules one by one -/

/-- A model needs a name. -/
theorem checkMeta_valid_iff
    {model : Model} :
    (checkMeta model).valid = true ↔ model.info.name ≠ "" := by
  simp [checkMeta]

/-- Names pass the rule exactly when they are given, are identifiers and are distinct. -/
theorem checkNames_valid_iff
    {position : Nat}
    {names : List String}
    {tables : List TableId}
    {entities : List Entity} :
    (checkNames position names tables entities).valid = true ↔
      (∀ entity ∈ entities, entity.name ≠ "" ∧ Text.isIdentifier entity.name = true ∧
        entity.tableName ≠ "") ∧
        Model.checkDistinctEntities names tables entities = .ok () := by
  induction entities generalizing position names tables with
  | nil =>
      simp [checkNames, Model.checkDistinctEntities]
  | cons entity later inductionHypothesis =>
      by_cases named : entity.name = ""
      · simp [checkNames, named]
      · by_cases tableNamed : entity.tableName = ""
        · simp [checkNames, named, tableNamed]
        · by_cases nameSeen : entity.name ∈ names
          · simp [checkNames, checkEntityName, Model.checkDistinctEntities, named, tableNamed,
              nameSeen]
          · by_cases tableSeen : entity.tableId ∈ tables
            · simp [checkNames, checkTable, Model.checkDistinctEntities, named, tableNamed,
                nameSeen, tableSeen]
            · simp [checkNames, checkEntityName, checkTable, Model.checkDistinctEntities, named,
                tableNamed, nameSeen, tableSeen, inductionHypothesis, and_assoc]

/-- An entity needs exactly one primary key. -/
theorem checkKeys_valid_iff
    {entity : Entity} :
    (checkKeys entity).valid = true ↔ entity.primaryKeyCount = 1 := by
  rw [checkKeys]
  split <;> simp_all

/-- A default is never the reason why a report is not valid. -/
theorem checkDefault_valid
    {path : String}
    {field : Field} :
    (checkDefault path field).valid = true := by
  rw [checkDefault]
  split <;> rfl

/-- What a field has to keep on its own to pass the rule. -/
def KeepsOwnRules (field : Field) : Prop :=
  Text.isIdentifier field.name = true ∧
    (field.generated = true → field.isPrimaryKey = true) ∧
    (field.isGeneratedKey = true → field.defaultValue = none)

/-- A field is accepted when it keeps its own rules and its names are new. -/
theorem checkField_valid_iff
    {path : String}
    {names columns : List String}
    {field : Field} :
    (checkField path names columns field).valid = true ↔
      KeepsOwnRules field ∧ field.name ∉ names ∧ field.columnName ∉ columns := by
  simp only [checkField, KeepsOwnRules, Report.mergeAll_valid, List.forall_mem_cons,
    Report.errorIf_valid, checkDefault_valid, Bool.not_not, Bool.not_eq_true',
    Bool.and_eq_false_imp, Bool.not_eq_false', Option.isSome_eq_false_iff,
    Option.isNone_iff_eq_none, List.contains_eq_mem, decide_eq_false_iff_not, List.not_mem_nil,
    false_implies, implies_true, and_true]
  tauto

/-- Fields pass the rule exactly when each keeps its own rules and they are distinct. -/
theorem checkFieldList_valid_iff
    {entity : Entity}
    {names columns : List String}
    {fields : List Field} :
    (checkFieldList entity names columns fields).valid = true ↔
      (∀ field ∈ fields, field.name ≠ "" ∧ KeepsOwnRules field) ∧
        entity.checkDistinctFields names columns fields = .ok () := by
  induction fields generalizing names columns with
  | nil =>
      simp [checkFieldList, Entity.checkDistinctFields]
  | cons field later inductionHypothesis =>
      by_cases named : field.name = ""
      · simp [checkFieldList, named]
      · by_cases nameSeen : field.name ∈ names
        · simp [checkFieldList, checkField_valid_iff, Entity.checkDistinctFields, named,
            nameSeen]
        · by_cases columnSeen : field.columnName ∈ columns
          · simp [checkFieldList, checkField_valid_iff, Entity.checkDistinctFields, named,
              nameSeen, columnSeen]
          · simp [checkFieldList, checkField_valid_iff, Entity.checkDistinctFields, named,
              nameSeen, columnSeen, inductionHypothesis, and_assoc]

/-- A relationship is held to the rules that it is held to on its own. -/
theorem checkOwnRules_valid_iff
    {path : String}
    {relationship : Relationship} :
    (checkOwnRules path relationship).valid = true ↔ relationship.validate = .ok () := by
  rw [checkOwnRules]
  cases relationship.validate <;> simp

/-- A relationship is accepted when what it links to is found. -/
theorem checkTarget_valid_iff
    {model : Model}
    {path : String}
    {relationship : Relationship} :
    (checkTarget model path relationship).valid = true ↔ model.LinkFound relationship := by
  simp only [checkTarget, Model.LinkFound, Model.requireEntity]
  cases model.entity? relationship.toEntity with
  | none =>
      simp
  | some target =>
      simp only [Except.ok.injEq, exists_eq_left']
      cases target.referencedField relationship.targetField? <;> simp

/-- A single-valued relationship is accepted when its column is found. -/
theorem checkColumn_valid_iff
    {entity : Entity}
    {path : String}
    {relationship : Relationship}
    (reference : relationship.isReference = true) :
    (checkColumn entity path relationship).valid = true ↔ entity.OwnerFound relationship := by
  simp only [checkColumn, Entity.OwnerFound]
  cases entity.fieldNamed? relationship.fieldName <;> simp [reference]

/-- A join table is accepted when no earlier relationship has claimed it. -/
theorem checkJunction_valid_iff
    {entity : Entity}
    {owners : Model.JoinOwners}
    {path : String}
    {relationship : Relationship} :
    (checkJunction entity owners path relationship).valid = true ↔
      Model.joinTableId entity relationship ∉ owners.map Prod.fst := by
  rw [← Model.ownerOf?_eq_none_iff, checkJunction]
  cases Model.ownerOf? owners (Model.joinTableId entity relationship) <;> simp

/-- What a relationship has to keep, apart from its join table, to pass the rule. -/
def KeepsLinks (model : Model) (entity : Entity) (relationship : Relationship) : Prop :=
  relationship.validate = .ok () ∧ entity.OwnerFound relationship ∧ model.LinkFound relationship

/-- A relationship is accepted when it keeps its links and its join table is not claimed yet. -/
theorem checkRelationship_valid_iff
    {model : Model}
    {entity : Entity}
    {owners : Model.JoinOwners}
    {relationship : Relationship} :
    (checkRelationship model entity owners relationship).valid = true ↔
      KeepsLinks model entity relationship ∧
        (relationship.isManyToMany = true →
          Model.joinTableId entity relationship ∉ owners.map Prod.fst) := by
  by_cases reference : relationship.isReference
  · have notManyToMany : relationship.isManyToMany = false := by
      simpa [Relationship.isReference] using reference
    simp only [checkRelationship, reference, if_true, Report.mergeAll_valid,
      List.forall_mem_cons, checkOwnRules_valid_iff, checkTarget_valid_iff,
      checkColumn_valid_iff reference, List.not_mem_nil, false_implies, implies_true, and_true,
      KeepsLinks, notManyToMany, Bool.false_eq_true]
    tauto
  · have manyToMany : relationship.isManyToMany = true := by
      simpa [Relationship.isReference] using reference
    have ownsNoColumn : entity.OwnerFound relationship := fun isReference =>
      absurd isReference reference
    simp only [checkRelationship, reference, Report.mergeAll_valid, List.forall_mem_cons,
      checkOwnRules_valid_iff, checkTarget_valid_iff, checkJunction_valid_iff,
      List.not_mem_nil, false_implies, implies_true, and_true, KeepsLinks, ownsNoColumn,
      manyToMany, true_implies, true_and, Bool.false_eq_true, if_false]
    tauto

/-- The join tables seen with the relationships of an entity, the last one first. -/
theorem checkRelationshipList_owners
    {model : Model}
    {entity : Entity}
    {owners : Model.JoinOwners}
    {relationships : List Relationship} :
    (checkRelationshipList model entity owners relationships).2 =
      ((Model.joinIdsOf entity relationships).map fun table => (table, entity.name)).reverse ++
        owners := by
  induction relationships generalizing owners with
  | nil =>
      rfl
  | cons relationship later inductionHypothesis =>
      cases manyToMany : relationship.isManyToMany <;>
        simp [checkRelationshipList, inductionHypothesis, Model.joinIdsOf,
          Relationship.isReference, manyToMany]

/-- Relationships pass the rule when each keeps its rules and their join tables are new. -/
theorem checkRelationshipList_valid_iff
    {model : Model}
    {entity : Entity}
    {owners : Model.JoinOwners}
    {relationships : List Relationship} :
    (checkRelationshipList model entity owners relationships).1.valid = true ↔
      (∀ relationship ∈ relationships, KeepsLinks model entity relationship) ∧
        (Model.joinIdsOf entity relationships).Nodup ∧
        ∀ table ∈ Model.joinIdsOf entity relationships, table ∉ owners.map Prod.fst := by
  induction relationships generalizing owners with
  | nil =>
      simp [checkRelationshipList, Model.joinIdsOf]
  | cons relationship later inductionHypothesis =>
      simp only [checkRelationshipList, Report.merge_valid, Bool.and_eq_true,
        checkRelationship_valid_iff, inductionHypothesis, List.forall_mem_cons]
      cases manyToMany : relationship.isManyToMany with
      | false =>
          simp only [Relationship.isReference, manyToMany, Model.joinIdsOf,
            Bool.false_eq_true, not_false_eq_true, List.filter_cons_of_neg, Bool.not_false,
            if_true, false_implies, and_true]
          tauto
      | true =>
          simp only [Relationship.isReference, manyToMany, Model.joinIdsOf,
            List.filter_cons_of_pos, List.map_cons, List.nodup_cons, Bool.not_true,
            Bool.false_eq_true, if_false, true_implies, List.mem_cons, not_or,
            forall_eq_or_imp]
          constructor
          · rintro ⟨⟨keeps, new⟩, laterKeep, distinct, laterNew⟩
            exact
              ⟨⟨keeps, laterKeep⟩, ⟨fun member => (laterNew _ member).1 rfl, distinct⟩, new,
                fun table member => (laterNew table member).2⟩
          · rintro ⟨⟨keeps, laterKeep⟩, ⟨fresh, distinct⟩, new, laterNew⟩
            exact
              ⟨⟨keeps, new⟩, laterKeep, distinct, fun table member =>
                ⟨fun same => fresh (same ▸ member), laterNew table member⟩⟩

/-- Entities pass the rule when their relationships do and no join table is declared twice. -/
theorem checkRelationships_valid_iff
    {model : Model}
    {owners : Model.JoinOwners}
    {entities : List Entity} :
    (checkRelationships model owners entities).valid = true ↔
      (∀ entity ∈ entities, ∀ relationship ∈ entity.relationships,
        KeepsLinks model entity relationship) ∧
        (Model.joinIds entities).Nodup ∧
        ∀ table ∈ Model.joinIds entities, table ∉ owners.map Prod.fst := by
  induction entities generalizing owners with
  | nil =>
      simp [checkRelationships, Model.joinIds]
  | cons entity later inductionHypothesis =>
      have known
          (table : TableId) :
          table ∈ (((Model.joinIdsOf entity entity.relationships).map fun table =>
              (table, entity.name)).reverse ++ owners).map Prod.fst ↔
            table ∈ Model.joinIdsOf entity entity.relationships ∨
              table ∈ owners.map Prod.fst := by
        simp
      simp only [checkRelationships, Report.merge_valid, Bool.and_eq_true,
        checkRelationshipList_valid_iff, checkRelationshipList_owners, inductionHypothesis,
        known, not_or, List.forall_mem_cons, Model.joinIds, List.flatMap_cons,
        List.nodup_append', List.mem_append, List.disjoint_left]
      constructor
      · rintro ⟨⟨keeps, distinct, new⟩, laterKeep, laterDistinct, laterNew⟩
        refine
          ⟨⟨keeps, laterKeep⟩,
            ⟨distinct, laterDistinct, fun _ member other => (laterNew _ other).1 member⟩, ?_⟩
        rintro table (member | laterMember)
        · exact new table member
        · exact (laterNew table laterMember).2
      · rintro ⟨⟨keeps, laterKeep⟩, ⟨distinct, laterDistinct, apart⟩, new⟩
        exact
          ⟨⟨keeps, distinct, fun table member => new table (.inl member)⟩, laterKeep,
            laterDistinct, fun table member =>
              ⟨fun other => apart other member, new table (.inr member)⟩⟩

/-- A list of fields is accepted when the entity has all of them. -/
theorem checkCovering_valid_iff
    {entity : Entity}
    {path : String}
    {names : List String} :
    (checkCovering entity path names).valid = true ↔ entity.Covered names := by
  simp [checkCovering, Entity.Covered, ← Option.isSome_iff_exists]

/-- A group or an index is accepted when it lists some fields and the entity has all of them. -/
theorem checkEntry_valid_iff
    {entity : Entity}
    {kind : String}
    {names : List String} :
    (checkEntry entity kind names).valid = true ↔ names ≠ [] ∧ entity.Covered names := by
  cases names <;> simp [checkEntry, checkCovering_valid_iff]

/-- Indexes are accepted one by one, also where one repeats another. -/
theorem checkIndexList_valid_iff
    {entity : Entity}
    {seen : List (List String)}
    {indexes : List Index} :
    (checkIndexList entity seen indexes).valid = true ↔
      ∀ index ∈ indexes, index.fields ≠ [] ∧ entity.Covered index.fields := by
  induction indexes generalizing seen with
  | nil =>
      simp [checkIndexList]
  | cons index later inductionHypothesis =>
      simp [checkIndexList, checkEntry_valid_iff, inductionHypothesis]

/-- The rule on fields looks at the number of keys and at fields, which have to be distinct. -/
theorem checkFields_valid_iff
    {entity : Entity} :
    (checkFields entity).valid = true ↔
      entity.primaryKeyCount = 1 ∧
        (∀ field ∈ entity.fields, field.name ≠ "" ∧ KeepsOwnRules field) ∧
        (entity.fields.map (·.name)).Nodup ∧ (entity.fields.map (·.columnName)).Nodup := by
  simp [checkFields, checkKeys_valid_iff, checkFieldList_valid_iff,
    Entity.checkDistinctFields_eq_ok_iff]

/-- The unique groups and the indexes of an entity are accepted one by one. -/
theorem checkIndexes_valid_iff
    {entity : Entity} :
    (checkIndexes entity).valid = true ↔
      (∀ group ∈ entity.uniqueTogether, group.fields ≠ [] ∧ entity.Covered group.fields) ∧
        ∀ index ∈ entity.indexes, index.fields ≠ [] ∧ entity.Covered index.fields := by
  simp [checkIndexes, checkEntry_valid_iff, checkIndexList_valid_iff]

end SchemaScript.Rule

namespace SchemaScript

/-! ## Whole reports -/

/-- What an entity keeps when no rule finds an error in it on its own. -/
structure Entity.KeepsReported (entity : Entity) : Prop where
  nameGiven : entity.name ≠ ""
  nameIdentifier : Text.isIdentifier entity.name = true
  tableNameGiven : entity.tableName ≠ ""
  onePrimaryKey : entity.primaryKeyCount = 1
  fieldsKeepRules : ∀ field ∈ entity.fields, field.name ≠ "" ∧ Rule.KeepsOwnRules field
  fieldNamesDistinct : (entity.fields.map (·.name)).Nodup
  columnNamesDistinct : (entity.fields.map (·.columnName)).Nodup
  groupsListed :
    ∀ group ∈ entity.uniqueTogether, group.fields ≠ [] ∧ entity.Covered group.fields
  indexesListed : ∀ index ∈ entity.indexes, index.fields ≠ [] ∧ entity.Covered index.fields

/-- What a model keeps when no rule finds an error in it. -/
structure Model.KeepsReported (model : Model) : Prop where
  nameGiven : model.info.name ≠ ""
  entitiesKeep : ∀ entity ∈ model.entities, entity.KeepsReported
  namesDistinct : (model.entities.map (·.name)).Nodup
  tablesDistinct : (model.entities.map (·.tableId)).Nodup
  linksKept :
    ∀ entity ∈ model.entities, ∀ relationship ∈ entity.relationships,
      Rule.KeepsLinks model entity relationship
  joinsDistinct : (Model.joinIds model.entities).Nodup

namespace Model

variable {model : Model}

/-- The report of a model is valid exactly when the model keeps what the rules look at. -/
theorem report_valid_iff :
    (Report.ofModel model).valid = true ↔ model.KeepsReported := by
  simp only [Report.ofModel, Report.ofRules, Rule.all, List.map_cons, List.map_nil,
    Report.mergeAll_valid, List.forall_mem_cons, List.not_mem_nil, false_implies, implies_true,
    and_true, Rule.check, List.forall_mem_map, Rule.checkMeta_valid_iff,
    Rule.checkNames_valid_iff, checkDistinctEntities_eq_ok_iff, not_false_eq_true,
    Rule.checkFields_valid_iff, Rule.checkRelationships_valid_iff, Rule.checkIndexes_valid_iff]
  constructor
  · rintro
      ⟨nameGiven, ⟨named, namesDistinct, tablesDistinct⟩, fieldsKept,
        ⟨linksKept, joinsDistinct⟩, indexesKept⟩
    refine {
      nameGiven
      entitiesKeep := ?_
      namesDistinct
      tablesDistinct
      linksKept
      joinsDistinct }
    intro entity member
    obtain ⟨nameGiven, nameIdentifier, tableNameGiven⟩ := named entity member
    obtain ⟨onePrimaryKey, fieldsKeepRules, fieldNamesDistinct, columnNamesDistinct⟩ :=
      fieldsKept entity member
    obtain ⟨groupsListed, indexesListed⟩ := indexesKept entity member
    exact {
      nameGiven
      nameIdentifier
      tableNameGiven
      onePrimaryKey
      fieldsKeepRules
      fieldNamesDistinct
      columnNamesDistinct
      groupsListed
      indexesListed }
  · intro kept
    refine
      ⟨kept.nameGiven, ⟨?_, kept.namesDistinct, kept.tablesDistinct⟩, ?_,
        ⟨kept.linksKept, kept.joinsDistinct⟩, ?_⟩
    · intro entity member
      have own := kept.entitiesKeep entity member
      exact ⟨own.nameGiven, own.nameIdentifier, own.tableNameGiven⟩
    · intro entity member
      have own := kept.entitiesKeep entity member
      exact
        ⟨own.onePrimaryKey, own.fieldsKeepRules, own.fieldNamesDistinct,
          own.columnNamesDistinct⟩
    · intro entity member
      have own := kept.entitiesKeep entity member
      exact ⟨own.groupsListed, own.indexesListed⟩

namespace WellFormed

/-- A well-formed model keeps all that the rules look at. -/
theorem keepsReported
    (wellFormed : model.WellFormed) :
    model.KeepsReported where
  nameGiven := wellFormed.name_ne_empty
  namesDistinct := wellFormed.namesDistinct
  tablesDistinct := wellFormed.tablesDistinct
  joinsDistinct := wellFormed.joinsDistinct
  linksKept := by
    intro entity entityMember relationship member
    have entityFormed := wellFormed.entityFormed entityMember
    exact
      ⟨entityFormed.relationshipsValid relationship member,
        entityFormed.ownersFound relationship member,
        wellFormed.linksFound entity entityMember relationship member⟩
  entitiesKeep := by
    intro entity member
    have entityFormed := wellFormed.entityFormed member
    exact {
      nameGiven := entityFormed.nameGiven
      nameIdentifier := entityFormed.nameIdentifier
      tableNameGiven := entityFormed.tableNameGiven
      onePrimaryKey := entityFormed.onePrimaryKey
      fieldNamesDistinct := entityFormed.fieldNamesDistinct
      columnNamesDistinct := entityFormed.columnNamesDistinct
      fieldsKeepRules := by
        intro field fieldMember
        have fieldFormed := entityFormed.fieldsValid field fieldMember
        exact
          ⟨fieldFormed.nameGiven, fieldFormed.nameIdentifier, fieldFormed.generatedIsKey,
            fieldFormed.generatedHasNoDefault⟩
      groupsListed := by
        intro group groupMember
        exact
          ⟨UniqueGroup.validate_eq_ok_iff.mp (entityFormed.groupsValid group groupMember),
            entityFormed.groupsCovered group groupMember⟩
      indexesListed := by
        intro index indexMember
        exact
          ⟨(Index.validate_eq_ok_iff.mp (entityFormed.indexesValid index indexMember)).1,
            entityFormed.indexesCovered index indexMember⟩ }

/-- The report of a well-formed model is valid. -/
theorem report_valid
    (wellFormed : model.WellFormed) :
    (Report.ofModel model).valid = true :=
  report_valid_iff.mpr wellFormed.keepsReported

end WellFormed

end Model

end SchemaScript
