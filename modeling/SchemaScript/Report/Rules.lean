import SchemaScript.Model.Validation
import SchemaScript.Report

namespace SchemaScript

/-!
# Rules for models

Five rules look at a model, each at one aspect of it.  A rule goes through all
of the model and reports whatever it finds.
-/

/-- A rule that models are checked against. -/
inductive Rule where
  | modelMeta
  | entityNames
  | entityFields
  | relationships
  | indexes
  deriving DecidableEq, Repr

namespace Rule

/-- All rules, in the order in which they are applied. -/
def all : List Rule :=
  [.modelMeta, .entityNames, .entityFields, .relationships, .indexes]

/-- The name of a rule. -/
def name : Rule → String
  | .modelMeta => "model_meta"
  | .entityNames => "entity_names"
  | .entityFields => "entity_fields"
  | .relationships => "relationships"
  | .indexes => "indexes"

/-- The rule of a name. -/
def ofName? (name : String) : Option Rule :=
  all.find? fun rule => rule.name == name

/-- What a rule is for. -/
def description : Rule → String
  | .modelMeta => "Validates model metadata"
  | .entityNames => "Validates that entity names are valid and tables unique per namespace"
  | .entityFields => "Validates fields, primary keys and defaults"
  | .relationships => "Validates that relationships reference existing entities and columns"
  | .indexes => "Validates that unique groups and indexes name existing columns"

/-! ## The model itself -/

/-- The model has a name and some entities. -/
def checkMeta (model : Model) : Report :=
  (Report.errorIf model.info.name.isEmpty
    { code := .emptyModelName
      message := "Model name cannot be empty"
      path := none
      suggestion := none }).merge
  (Report.warningIf model.entities.isEmpty
    { code := .emptyModel
      message := "Model has no entities; the generated script will be empty"
      path := none })

/-! ## Names of entities -/

/-- The path of an entity. -/
def entityPath (entity : Entity) : String :=
  "entities." ++ entity.name

/-- The table of an entity is declared once and described; `tables` are those seen before. -/
def checkTable (tables : List TableId) (entity : Entity) : Report :=
  (Report.errorIf (tables.contains entity.tableId)
    { code := .duplicateTable
      message := "Table '" ++ entity.tableId.display ++ "' is declared more than once"
      path := some (entityPath entity)
      suggestion := some "Rename the table or move it to another namespace" }).merge
  (Report.warningIf entity.description.isNone
    { code := .noDescription
      message := "Entity '" ++ entity.name ++ "' has no description"
      path := some (entityPath entity) })

/-- The name of an entity, which is not empty, is an identifier and used once. -/
def checkEntityName (names : List String) (entity : Entity) : Report :=
  (Report.errorIf (!Text.isIdentifier entity.name)
    { code := .invalidEntityName
      message := "Entity name '" ++ entity.name ++ "' is not a valid identifier"
      path := some (entityPath entity)
      suggestion := some "Use PascalCase with only letters and numbers" }).merge
  (Report.errorIf (names.contains entity.name)
    { code := .duplicateEntityName
      message := "Duplicate entity name: '" ++ entity.name ++ "'"
      path := some (entityPath entity)
      suggestion := none })

/--
The names and tables of some entities, the first of which stands at
`position`; `names` and `tables` are those seen before.  An entity without a
name is not looked at any further, and neither is a table without one.
-/
def checkNames (position : Nat) (names : List String) (tables : List TableId) :
    List Entity → Report
  | [] => Report.clean
  | entity :: entities =>
      if entity.name.isEmpty then
        (Report.ofError
          { code := .emptyEntityName
            message := "Entity name cannot be empty"
            path := some ("entities[" ++ toString position ++ "]")
            suggestion := none }).merge
        (checkNames (position + 1) names tables entities)
      else if entity.tableName.isEmpty then
        ((checkEntityName names entity).addError
          { code := .emptyTableName
            message := "Entity '" ++ entity.name ++ "' has no table name"
            path := some (entityPath entity)
            suggestion := none }).merge
        (checkNames (position + 1) (entity.name :: names) tables entities)
      else
        ((checkEntityName names entity).merge (checkTable tables entity)).merge
        (checkNames (position + 1) (entity.name :: names) (entity.tableId :: tables) entities)

/-! ## Fields -/

/-- An entity has one primary key. -/
def checkKeys (entity : Entity) : Report :=
  match entity.primaryKeyCount with
  | 0 =>
      Report.ofError
        { code := .noPrimaryKey
          message := "Entity '" ++ entity.name ++ "' has no primary key"
          path := some (entityPath entity)
          suggestion := some "Add a field with is_primary_key = true" }
  | 1 => Report.clean
  | _ =>
      Report.ofError
        { code := .compositePrimaryKey
          message := "Entity '" ++ entity.name ++ "' has more than one primary key"
          path := some (entityPath entity)
          suggestion := some "Use a unique_together group instead" }

/-- Why a field's default is not written into its column's definition. -/
def unrenderedReason? (field : Field) : Option String :=
  match field.defaultValue with
  | some (.callable name) => some ("default " ++ name ++ "() is applied by the caller")
  | some .updateTime => some "auto_now is maintained on write, not by a DDL default"
  | some _ =>
      if field.dataType.inlinesDefault then
        none
      else
        some (field.dataType.display ++ " columns do not inline their default")
  | none => none

/-- A default that is not written into the column's definition is pointed out. -/
def checkDefault (path : String) (field : Field) : Report :=
  match unrenderedReason? field with
  | some reason =>
      Report.clean.addWarning
        { code := .defaultNotRendered
          message := "Field '" ++ field.name ++ "': " ++ reason
          path := some path }
  | none => Report.clean

/-- One field, whose name is not empty; `names` and `columns` are those seen before. -/
def checkField (path : String) (names columns : List String) (field : Field) : Report :=
  Report.mergeAll [
    Report.errorIf (!Text.isIdentifier field.name)
      { code := .invalidFieldName
        message := "Field name '" ++ field.name ++ "' is not a valid identifier"
        path := some path
        suggestion := none },
    Report.errorIf (names.contains field.name)
      { code := .duplicateFieldName
        message := "Duplicate field name: '" ++ field.name ++ "'"
        path := some path
        suggestion := none },
    Report.errorIf (columns.contains field.columnName)
      { code := .duplicateColumnName
        message := "Duplicate column name: '" ++ field.columnName ++ "'"
        path := some path
        suggestion := none },
    Report.errorIf (field.generated && !field.isPrimaryKey)
      { code := .generatedNonPrimaryKey
        message := "Field '" ++ field.name ++ "' is generated but not the primary key"
        path := some path
        suggestion := none },
    Report.errorIf (field.isGeneratedKey && field.defaultValue.isSome)
      { code := .generatedKeyWithDefault
        message := "Generated primary key '" ++ field.name ++ "' carries a default"
        path := some path
        suggestion := some "Remove the default; the database assigns the value" },
    checkDefault path field]

/--
The fields of an entity; `names` and `columns` are those seen before.  A field
without a name is not looked at any further.
-/
def checkFieldList (entity : Entity) (names columns : List String) : List Field → Report
  | [] => Report.clean
  | field :: fields =>
      let path := entityPath entity ++ ".fields." ++ field.name
      if field.name.isEmpty then
        (Report.ofError
          { code := .emptyFieldName
            message := "Field name cannot be empty"
            path := some path
            suggestion := none }).merge
        (checkFieldList entity names columns fields)
      else
        (checkField path names columns field).merge
        (checkFieldList entity (field.name :: names) (field.columnName :: columns) fields)

/-- The primary key and the fields of an entity. -/
def checkFields (entity : Entity) : Report :=
  (checkKeys entity).merge (checkFieldList entity [] [] entity.fields)

/-! ## Relationships -/

/-- The path of a relationship. -/
def relationshipPath (entity : Entity) (relationship : Relationship) : String :=
  entityPath entity ++ ".relationships." ++ relationship.name

/-- A relationship keeps its own rules. -/
def checkOwnRules (path : String) (relationship : Relationship) : Report :=
  match relationship.validate with
  | .ok () => Report.clean
  | .error error =>
      Report.ofError
        { code := .invalidRelationship
          message := error.message
          path := some path
          suggestion := none }

/-- A relationship leads to a field of an entity. -/
def checkTarget (model : Model) (path : String) (relationship : Relationship) : Report :=
  match model.entity? relationship.toEntity with
  | none =>
      Report.ofError
        { code := .orphanRelationship
          message :=
            "Relationship '" ++ relationship.name ++ "' references non-existent entity '" ++
              relationship.toEntity ++ "'"
          path := some path
          suggestion := none }
  | some target =>
      match target.referencedField relationship.targetField? with
      | .ok _ => Report.clean
      | .error _ =>
          Report.ofError
            { code := .unknownTargetField
              message :=
                "Relationship '" ++ relationship.name ++ "' references a missing field on '" ++
                  target.name ++ "'"
              path := some path
              suggestion := none }

/-- A single-valued relationship owns a reference; one that is not enforced is pointed out. -/
def checkColumn (entity : Entity) (path : String) (relationship : Relationship) : Report :=
  let owned :=
    match entity.fieldNamed? relationship.fieldName with
    | some field => field.isReference
    | none => false
  (Report.errorIf (!owned)
    { code := .missingReferenceColumn
      message :=
        "Relationship '" ++ relationship.name ++ "' has no reference column '" ++
          relationship.fieldName ++ "'"
      path := some path
      suggestion := none }).merge
  (Report.warningIf (!relationship.dbConstraint)
    { code := .logicalOnlyRelationship
      message := "Relationship '" ++ relationship.name ++ "' emits no foreign key constraint"
      path := some path })

/-- A join table is declared once; `owners` are those seen before, the last one first. -/
def checkJunction (entity : Entity) (owners : Model.JoinOwners) (path : String)
    (relationship : Relationship) : Report :=
  let join := Model.joinTableId entity relationship
  match Model.ownerOf? owners join with
  | some owner =>
      Report.ofError
        { code := .duplicateJoinTable
          message :=
            "Join table '" ++ join.display ++ "' is already declared by '" ++ owner ++ "'"
          path := some path
          suggestion := none }
  | none => Report.clean

/-- One relationship of an entity. -/
def checkRelationship (model : Model) (entity : Entity) (owners : Model.JoinOwners)
    (relationship : Relationship) : Report :=
  let path := relationshipPath entity relationship
  Report.mergeAll [
    checkOwnRules path relationship,
    checkTarget model path relationship,
    if relationship.isReference then
      checkColumn entity path relationship
    else
      checkJunction entity owners path relationship]

/-- The relationships of an entity, and the join tables seen with them. -/
def checkRelationshipList (model : Model) (entity : Entity) (owners : Model.JoinOwners) :
    List Relationship → Report × Model.JoinOwners
  | [] => (Report.clean, owners)
  | relationship :: later =>
      let seen :=
        if relationship.isReference then
          owners
        else
          (Model.joinTableId entity relationship, entity.name) :: owners
      let rest := checkRelationshipList model entity seen later
      ((checkRelationship model entity owners relationship).merge rest.1, rest.2)

/-- The relationships of some entities; `owners` are the join tables seen before. -/
def checkRelationships (model : Model) (owners : Model.JoinOwners) : List Entity → Report
  | [] => Report.clean
  | entity :: entities =>
      let found := checkRelationshipList model entity owners entity.relationships
      found.1.merge (checkRelationships model found.2 entities)

/-! ## Unique groups and indexes -/

/-- Names that a unique group or index lists find fields. -/
def checkCovering (entity : Entity) (path : String) (names : List String) : Report :=
  Report.mergeAll <| names.map fun name =>
    Report.errorIf (entity.findField? name).isNone
      { code := .unknownIndexColumn
        message := "Unknown column '" ++ name ++ "' on '" ++ entity.name ++ "'"
        path := some path
        suggestion := none }

/-- A unique group or index lists some columns, and they exist. -/
def checkEntry (entity : Entity) (kind : String) (names : List String) : Report :=
  let path := entityPath entity ++ "." ++ kind
  if names.isEmpty then
    Report.ofError
      { code := .emptyIndex
        message := "Entity '" ++ entity.name ++ "' declares an empty " ++ kind ++ " entry"
        path := some path
        suggestion := none }
  else
    checkCovering entity path names

/-- The indexes of an entity; one over columns in `seen` is pointed out. -/
def checkIndexList (entity : Entity) (seen : List (List String)) : List Index → Report
  | [] => Report.clean
  | index :: later =>
      let repeated := !index.fields.isEmpty && seen.contains index.fields
      ((checkEntry entity "indexes" index.fields).merge
        (Report.warningIf repeated
          { code := .duplicateIndex
            message :=
              "Index on (" ++ ", ".intercalate index.fields ++
                ") is declared twice and will be emitted once"
            path := some (entityPath entity ++ ".indexes") })).merge
      (checkIndexList entity (index.fields :: seen) later)

/-- The unique groups and indexes of an entity. -/
def checkIndexes (entity : Entity) : Report :=
  (Report.mergeAll (entity.uniqueTogether.map fun group =>
    checkEntry entity "unique_together" group.fields)).merge
  (checkIndexList entity [] entity.indexes)

/-! ## Applying rules -/

/-- What a rule finds in a model. -/
def check (rule : Rule) (model : Model) : Report :=
  match rule with
  | .modelMeta => checkMeta model
  | .entityNames => checkNames 0 [] [] model.entities
  | .entityFields => Report.mergeAll (model.entities.map checkFields)
  | .relationships => checkRelationships model [] model.entities
  | .indexes => Report.mergeAll (model.entities.map checkIndexes)

end Rule

namespace Report

/-- What some rules find in a model. -/
def ofRules (rules : List Rule) (model : Model) : Report :=
  mergeAll (rules.map fun rule => rule.check model)

/-- What the rules find in a model. -/
def ofModel (model : Model) : Report :=
  ofRules Rule.all model

end Report

end SchemaScript
