import SchemaScript.Entity

namespace SchemaScript.Entity

/-!
# Valid entities

The rules that an entity has to keep on its own, checked one after another up
to the first that it breaks.
-/

/-- Names and columns of fields are distinct; `names` and `columns` are those seen before. -/
def checkDistinctFields (entity : Entity) (names columns : List String) :
    List Field → Except SchemaError Unit
  | [] => .ok ()
  | field :: fields =>
      if names.contains field.name then
        .error (.invalidField entity.name field.name "Duplicate field name")
      else if columns.contains field.columnName then
        .error
          (.invalidField entity.name field.name
            ("Duplicate column name '" ++ field.columnName ++ "'"))
      else
        entity.checkDistinctFields (field.name :: names) (field.columnName :: columns) fields

/-- A field keeps its own rules. -/
def checkField (entity : Entity) (field : Field) : Except SchemaError Unit :=
  match field.validate with
  | .ok () => .ok ()
  | .error error => .error (.invalidField entity.name field.name error.message)

/-- A relationship keeps its own rules and owns a reference. -/
def checkRelationship (entity : Entity) (relationship : Relationship) :
    Except SchemaError Unit := do
  relationship.validate
  if relationship.isReference then
    match entity.fieldNamed? relationship.fieldName with
    | some field =>
        require field.isReference
          (.invalidField entity.name relationship.fieldName
            ("Field cannot hold relationship '" ++ relationship.name ++ "'"))
    | none => .error (.unknownColumn entity.name relationship.fieldName)
  else
    .ok ()

/-- Every name finds a field. -/
def checkNames (entity : Entity) : List String → Except SchemaError Unit :=
  checkAll fun name =>
    match entity.resolveField name with
    | .ok _ => .ok ()
    | .error error => .error error

/-- A part of the entity keeps its own rules and covers columns that exist. -/
def checkCovering (entity : Entity) (own : Except SchemaError Unit) (names : List String) :
    Except SchemaError Unit :=
  match own with
  | .ok () => entity.checkNames names
  | .error error => .error (.invalidEntity entity.name error.message)

/-- Checks the rules that an entity has to keep on its own. -/
def validate (entity : Entity) : Except SchemaError Unit := do
  require (!entity.name.isEmpty) (.invalidEntity entity.name "Entity name cannot be empty")
  require (Text.isIdentifier entity.name)
    (.invalidEntity entity.name ("Entity name '" ++ entity.name ++ "' is not a valid identifier"))
  require (!entity.tableName.isEmpty) (.invalidEntity entity.name "Table name cannot be empty")
  require (entity.primaryKeyCount != 0)
    (.invalidEntity entity.name "Entity must have a primary key")
  require (entity.primaryKeyCount == 1)
    (.invalidEntity entity.name "Composite primary keys are not supported")
  checkAll entity.checkField entity.fields
  entity.checkDistinctFields [] [] entity.fields
  checkAll entity.checkRelationship entity.relationships
  checkAll (fun group => entity.checkCovering group.validate group.fields) entity.uniqueTogether
  checkAll (fun index => entity.checkCovering index.validate index.fields) entity.indexes

end SchemaScript.Entity
