import SchemaScript.Error
import SchemaScript.Field
import SchemaScript.Relation

namespace SchemaScript

/-!
# Relationships

A relationship is declared on the entity that owns it.  A single-valued one
owns a column there, which refers to the other entity; a many-to-many one owns
a join table with a column for each side.  Names that are left empty are
derived from those of the relationship and the two entities.
-/

/-- A link from an entity to another one. -/
structure Relationship where
  name : String
  toEntity : String
  relationType : RelationType
  /-- The field that owns the link. -/
  fromField : String
  /-- The field referred to; the primary key when empty. -/
  toField : String
  onDelete : ReferentialAction
  /-- Whether the database enforces the link. -/
  dbConstraint : Bool
  required : Bool
  /-- The join table's column for the owner. -/
  backwardKey : String
  /-- The join table's column for the other entity. -/
  forwardKey : String
  /-- Whether the join table holds each pair once. -/
  uniquePairs : Bool
  description : Option String
  deriving DecidableEq, Repr

namespace Relationship

/-! ## Making relationships -/

/-- An enforced, required link that cascades and derives all its names. -/
def linking (name toEntity : String) (relationType : RelationType) : Relationship where
  name := name
  toEntity := toEntity
  relationType := relationType
  fromField := ""
  toField := ""
  onDelete := .cascade
  dbConstraint := true
  required := true
  backwardKey := ""
  forwardKey := ""
  uniquePairs := false
  description := none

/-- Names the join table of a many-to-many relationship; others have none. -/
def through (relationship : Relationship) (table : String) : Relationship :=
  match relationship.relationType with
  | .manyToMany _ => { relationship with relationType := .manyToMany table }
  | _ => relationship

/-! ## Looking at relationships -/

/-- Whether each row is linked with one other at most. -/
def isOneToOne (relationship : Relationship) : Bool :=
  relationship.relationType == .oneToOne

/-- Whether the relationship owns a join table. -/
def isManyToMany (relationship : Relationship) : Bool :=
  relationship.relationType.isManyToMany

/-- Whether the relationship owns a column. -/
def isReference (relationship : Relationship) : Bool :=
  !relationship.isManyToMany

/-- The name of the owning field that is derived from a relationship's name. -/
def derivedFieldName (name : String) : String :=
  Text.snakeCase name ++ "_id"

/-- The name of the join table that is derived from those of the two sides. -/
def derivedJunction (ownerTable targetEntity : String) : String :=
  ownerTable ++ "_" ++ Text.snakeCase targetEntity

/-- The name of the field that owns the link. -/
def fieldName (relationship : Relationship) : String :=
  if relationship.fromField.isEmpty then
    derivedFieldName relationship.name
  else
    relationship.fromField

/-- The field referred to, unless it is the primary key. -/
def targetField? (relationship : Relationship) : Option String :=
  if relationship.toField.isEmpty then none else some relationship.toField

/-- The join table that is named explicitly. -/
def junction? (relationship : Relationship) : Option String :=
  match relationship.relationType with
  | .manyToMany junction => if junction.isEmpty then none else some junction
  | _ => none

/-- The name of the join table for an owner's table. -/
def junctionFor (relationship : Relationship) (ownerTable : String) : String :=
  relationship.junction?.getD (derivedJunction ownerTable relationship.toEntity)

/-- The join table's column for the other entity. -/
def forwardKeyName (relationship : Relationship) : String :=
  if relationship.forwardKey.isEmpty then
    Text.snakeCase relationship.toEntity ++ "_id"
  else
    relationship.forwardKey

/-- The join table's column for the owner, kept apart from that for the other entity. -/
def backwardKeyFor (relationship : Relationship) (ownerTable : String) : String :=
  if relationship.backwardKey.isEmpty then
    if ownerTable ++ "_id" = relationship.forwardKeyName then
      ownerTable ++ "_rel_id"
    else
      ownerTable ++ "_id"
  else
    relationship.backwardKey

/-- The field that a single-valued relationship owns when its entity declares none. -/
def referenceField (relationship : Relationship) : Field :=
  { Field.named relationship.fieldName
      (.reference relationship.toEntity relationship.toField) with
    nullable := !relationship.required
    unique := relationship.isOneToOne
    description := relationship.description }

/-- Checks the rules that a relationship has to keep on its own. -/
def validate (relationship : Relationship) : Except SchemaError Unit := do
  require (!relationship.name.isEmpty)
    (.invalidRelationship "Relationship name cannot be empty")
  require (!relationship.toEntity.isEmpty)
    (.invalidRelationship ("Relationship '" ++ relationship.name ++ "' has no target entity"))
  require
    (!(relationship.onDelete == .setNull && relationship.required && relationship.isReference))
    (.invalidRelationship
      ("Relationship '" ++ relationship.name ++ "' uses SET NULL on delete but is required"))
  if relationship.isManyToMany then
    require relationship.fromField.isEmpty
      (.invalidRelationship
        ("Many-to-many relationship '" ++ relationship.name ++ "' cannot own a column"))
  else
    require
      (relationship.backwardKey.isEmpty && relationship.forwardKey.isEmpty &&
        !relationship.uniquePairs)
      (.invalidRelationship
        ("Join table options on '" ++ relationship.name ++
          "' require a many-to-many relationship"))

end Relationship

end SchemaScript
