import SchemaScript.Field
import SchemaScript.Index
import SchemaScript.Relationship
import SchemaScript.TableId

namespace SchemaScript

/-!
# Entities

An entity describes one table: its columns, the relationships it owns, its
unique groups and its indexes.  Entities may be written with names left out
and without the columns that their relationships own; `normalize` fills them
in.
-/

/-- The description of one table. -/
structure Entity where
  name : String
  tableName : String
  namespaceName? : Option String
  description : Option String
  fields : List Field
  relationships : List Relationship
  uniqueTogether : List UniqueGroup
  indexes : List Index
  deriving BEq, Repr

namespace Entity

/-! ## Looking at entities -/

/-- The identity of the entity's table. -/
def tableId (entity : Entity) : TableId :=
  TableId.within entity.namespaceName? entity.tableName

/-- The first field that is a primary key. -/
def primaryKey? (entity : Entity) : Option Field :=
  entity.fields.find? (·.isPrimaryKey)

/-- How many fields are primary keys. -/
def primaryKeyCount (entity : Entity) : Nat :=
  entity.fields.countP (·.isPrimaryKey)

/-- The first field of a name. -/
def fieldNamed? (entity : Entity) (name : String) : Option Field :=
  entity.fields.find? (·.name == name)

/-- Whether a field has a name. -/
def hasField (entity : Entity) (name : String) : Bool :=
  entity.fields.any (·.name == name)

/-- The field that the single-valued relationship of a name owns. -/
def relationshipField? (entity : Entity) (name : String) : Option Field :=
  match entity.relationships.find? fun each => each.isReference && each.name == name with
  | some relationship => entity.fields.find? (·.answersTo relationship.fieldName)
  | none => none

/-- The field that a name finds: a field's name first, then a column's, then a relationship's. -/
def findField? (entity : Entity) (name : String) : Option Field :=
  (entity.fieldNamed? name).or
    ((entity.fields.find? (·.columnName == name)).or (entity.relationshipField? name))

/-- The field that a name has to find. -/
def resolveField (entity : Entity) (name : String) : Except SchemaError Field :=
  match entity.findField? name with
  | some field => .ok field
  | none => .error (.unknownColumn entity.name name)

/-- The field that a reference to the entity points at: a given one, or the primary key. -/
def referencedField (entity : Entity) : Option String → Except SchemaError Field
  | some name => entity.resolveField name
  | none =>
      match entity.primaryKey? with
      | some field => .ok field
      | none => .error (.invalidEntity entity.name "Entity must have a primary key")

/-- The first single-valued relationship that a field carries. -/
def relationshipFor? (entity : Entity) (field : Field) : Option Relationship :=
  entity.relationships.find? fun each => each.isReference && field.answersTo each.fieldName

/-- The many-to-many relationships. -/
def manyToMany (entity : Entity) : List Relationship :=
  entity.relationships.filter (·.isManyToMany)

/-- The fields that have an index of their own. -/
def indexedFields (entity : Entity) : List Field :=
  entity.fields.filter fun field => field.indexed && !field.isPrimaryKey

/-! ## Making entities -/

/-- An entity with a generated key, whose table name is its name in snake case. -/
def named (name : String) : Entity where
  name := name
  tableName := Text.snakeCase name
  namespaceName? := none
  description := none
  fields := [Field.generatedKey]
  relationships := []
  uniqueTogether := []
  indexes := []

/-- An entity to start from. -/
def placeholder : Entity :=
  named "Entity"

/-- Moves the entity to a namespace; the empty namespace is none. -/
def inNamespace (entity : Entity) (name : String) : Entity :=
  { entity with namespaceName? := if name.isEmpty then none else some name }

/-- Replaces the primary keys by one, which comes first. -/
def withPrimaryKey (entity : Entity) (field : Field) : Entity :=
  { entity with
    fields := field.asPrimaryKey :: entity.fields.filter fun each => !each.isPrimaryKey }

/-- Adds a field at the end. -/
def withField (entity : Entity) (field : Field) : Entity :=
  { entity with fields := entity.fields ++ [field] }

/-- Adds a relationship, and the column it owns unless a field has its name. -/
def withRelationship (entity : Entity) (relationship : Relationship) : Entity :=
  let fields :=
    if relationship.isReference && !entity.hasField relationship.fieldName then
      entity.fields ++ [relationship.referenceField]
    else
      entity.fields
  { entity with fields, relationships := entity.relationships ++ [relationship] }

/-- Adds a unique group. -/
def withUniqueTogether (entity : Entity) (fields : List String) : Entity :=
  { entity with uniqueTogether := entity.uniqueTogether ++ [{ fields }] }

/-- Adds an index. -/
def withIndex (entity : Entity) (index : Index) : Entity :=
  { entity with indexes := entity.indexes ++ [index] }

/-!
## The columns that relationships own

What changes an entity in place gives it as the call leaves it, beside the
outcome.
-/

/-- The error of a relationship when a field that is no reference has its column's name. -/
def fieldTaken (entity : Entity) (relationship : Relationship) : SchemaError :=
  .invalidField entity.name relationship.fieldName
    ("Field already exists and cannot hold relationship '" ++ relationship.name ++ "'")

/--
Adds the column that a relationship owns unless it is there, and tells
whether it was added.  A field of that name that is no reference stands in
the way.
-/
def addReferenceField (entity : Entity) (relationship : Relationship) :
    Entity × Except SchemaError Bool :=
  if relationship.isManyToMany then
    (entity, .ok false)
  else
    match entity.fieldNamed? relationship.fieldName with
    | some field =>
        if field.isReference then
          (entity, .ok false)
        else
          (entity, .error (entity.fieldTaken relationship))
    | none => (entity.withField relationship.referenceField, .ok true)

/-- Adds the column that a relationship owns and then the relationship. -/
def addRelationship (entity : Entity) (relationship : Relationship) :
    Entity × Except SchemaError Unit :=
  match entity.addReferenceField relationship with
  | (extended, .ok _) =>
      ({ extended with relationships := extended.relationships ++ [relationship] }, .ok ())
  | (partly, .error error) => (partly, .error error)

/-- Fills in an empty column name. -/
def fillColumnName (field : Field) : Field :=
  if field.columnName.isEmpty then
    { field with columnName := Text.snakeCase field.name }
  else
    field

/-- Fills in an empty table name and empty column names, and drops an empty namespace. -/
def fillNames (entity : Entity) : Entity :=
  { entity with
    tableName := if entity.tableName.isEmpty then Text.snakeCase entity.name else entity.tableName
    namespaceName? := entity.namespaceName?.filter fun name => !name.isEmpty
    fields := entity.fields.map fillColumnName }

/-- Adds the columns that some relationships own, up to the first that cannot be added. -/
def addReferenceFields (entity : Entity) :
    List Relationship → Entity × Except SchemaError Unit
  | [] => (entity, .ok ())
  | relationship :: later =>
      match entity.addReferenceField relationship with
      | (extended, .ok _) => extended.addReferenceFields later
      | (partly, .error error) => (partly, .error error)

/--
Fills in what the author may leave out.  When a column cannot be added, what
was filled in before it stays.
-/
def normalize (entity : Entity) : Entity × Except SchemaError Unit :=
  entity.fillNames.addReferenceFields entity.relationships

end Entity

end SchemaScript
