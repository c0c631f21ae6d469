import SchemaScript.Entity
import SchemaScript.Field.Encoding
import SchemaScript.Index.Encoding
import SchemaScript.Relationship.Encoding

namespace SchemaScript

/-!
# Tables and entities in model files

An entity is an object; only its name has to be given.
-/

namespace TableId

/-- The identity of a table as an object. -/
def toJson (id : TableId) : Json :=
  .object [("namespace", Json.ofText? id.namespaceName?), ("table", .string id.table)]

end TableId

namespace Entity

/-- An entity in a model file. -/
def toJson (entity : Entity) : Json :=
  .object [
    ("name", .string entity.name),
    ("table_name", .string entity.tableName),
    ("namespace", Json.ofText? entity.namespaceName?),
    ("description", Json.ofText? entity.description),
    ("fields", .array (entity.fields.map Field.toJson)),
    ("relationships", .array (entity.relationships.map Relationship.toJson)),
    ("unique_together", .array (entity.uniqueTogether.map UniqueGroup.toJson)),
    ("indexes", .array (entity.indexes.map Index.toJson))]

/-- The members of an entity. -/
def memberNames : List String :=
  ["name", "table_name", "namespace", "description", "fields", "relationships",
   "unique_together", "indexes"]

/-- An entity from a model file. -/
def read (document : Document) : Reading Entity :=
  document.readRecord memberNames fun record =>
    Entity.mk <$> record.required "name" Document.readText
      <*> record.optional "table_name" "" Document.readText
      <*> record.optional "namespace" none (Document.readOption Document.readText)
      <*> record.optional "description" none (Document.readOption Document.readText)
      <*> record.optional "fields" [] (Document.readList Field.read)
      <*> record.optional "relationships" [] (Document.readList Relationship.read)
      <*> record.optional "unique_together" [] (Document.readList UniqueGroup.read)
      <*> record.optional "indexes" [] (Document.readList Index.read)

end Entity

end SchemaScript
