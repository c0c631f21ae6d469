import SchemaScript.Json.Decoding
import SchemaScript.Relationship

namespace SchemaScript

/-!
# Relationships in model files

A relationship is an object; only its name and the entity it leads to have to
be given.  Its type is a name, or an object that says which join table a
many-to-many relationship uses.
-/

namespace RelationType

/-- A type of relationship in a model file. -/
def toJson : RelationType → Json
  | .oneToOne => .string "one_to_one"
  | .manyToOne => .string "many_to_one"
  | .manyToMany junction =>
      .object [("many_to_many", .object [("junction_table", .string junction)])]

/-- The join table that a many-to-many relationship names. -/
def readJunction (content : Document) : Reading RelationType :=
  content.readContentRecord ["junction_table"] fun record =>
    RelationType.manyToMany <$> record.optional "junction_table" "" Document.readText

/-- A content that is null, or no content. -/
def readBare (relationType : RelationType) : Option Document → Reading RelationType
  | none => .done relationType
  | some content => (fun _ => relationType) <$> content.readNull

/-- A type of relationship from a model file. -/
def read : Document → Reading RelationType :=
  Document.readVariant fun name content unfit =>
    if name = "one_to_one" then
      readBare .oneToOne content
    else if name = "many_to_one" then
      readBare .manyToOne content
    else if name = "many_to_many" then
      match content with
      | some part => readJunction part
      | none => .failed unfit
    else
      .failed unfit

end RelationType

namespace ReferentialAction

/-- An action in a model file. -/
def toJson (action : ReferentialAction) : Json :=
  .string action.keyword

/-- An action from a model file. -/
def read : Document → Reading ReferentialAction :=
  Document.readName ofKeyword?

end ReferentialAction

namespace Relationship

/-- A relationship in a model file. -/
def toJson (relationship : Relationship) : Json :=
  .object [
    ("name", .string relationship.name),
    ("to_entity", .string relationship.toEntity),
    ("relation_type", relationship.relationType.toJson),
    ("from_field", .string relationship.fromField),
    ("to_field", .string relationship.toField),
    ("on_delete", relationship.onDelete.toJson),
    ("db_constraint", .bool relationship.dbConstraint),
    ("required", .bool relationship.required),
    ("backward_key", .string relationship.backwardKey),
    ("forward_key", .string relationship.forwardKey),
    ("unique_pairs", .bool relationship.uniquePairs),
    ("description", Json.ofText? relationship.description)]

/-- The members of a relationship. -/
def memberNames : List String :=
  ["name", "to_entity", "relation_type", "from_field", "to_field", "on_delete", "db_constraint",
   "required", "backward_key", "forward_key", "unique_pairs", "description"]

/-- A relationship from a model file. -/
def read (document : Document) : Reading Relationship :=
  document.readRecord memberNames fun record =>
    Relationship.mk <$> record.required "name" Document.readText
      <*> record.required "to_entity" Document.readText
      <*> record.optional "relation_type" .manyToOne RelationType.read
      <*> record.optional "from_field" "" Document.readText
      <*> record.optional "to_field" "" Document.readText
      <*> record.optional "on_delete" .cascade ReferentialAction.read
      <*> record.optional "db_constraint" true Document.readBool
      <*> record.optional "required" true Document.readBool
      <*> record.optional "backward_key" "" Document.readText
      <*> record.optional "forward_key" "" Document.readText
      <*> record.optional "unique_pairs" false Document.readBool
      <*> record.optional "description" none (Document.readOption Document.readText)

end Relationship

end SchemaScript
