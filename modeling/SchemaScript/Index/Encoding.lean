import SchemaScript.Index
import SchemaScript.Json.Decoding

namespace SchemaScript

/-!
# Unique groups and indexes in model files

A unique group is the list of its fields; an index is an object.
-/

namespace UniqueGroup

/-- A unique group in a model file. -/
def toJson (group : UniqueGroup) : Json :=
  Json.ofTexts group.fields

/-- A unique group from a model file. -/
def read (document : Document) : Reading UniqueGroup :=
  UniqueGroup.mk <$> document.readList Document.readText

end UniqueGroup

namespace Index

/-- An index in a model file. -/
def toJson (index : Index) : Json :=
  .object [
    ("name", Json.ofText? index.name),
    ("fields", Json.ofTexts index.fields),
    ("unique", .bool index.unique)]

/-- An index from a model file. -/
def read (document : Document) : Reading Index :=
  document.readRecord ["name", "fields", "unique"] fun record =>
    Index.mk <$> record.optional "name" none (Document.readOption Document.readText)
      <*> record.required "fields" (Document.readList Document.readText)
      <*> record.optional "unique" false Document.readBool

end Index

end SchemaScript
