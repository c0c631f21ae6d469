import SchemaScript.Entity.Encoding
import SchemaScript.Model

namespace SchemaScript

/-!
# Models as JSON

A model is an object that holds what it says about itself and its entities.
-/

namespace ModelMeta

/-- What a model says about itself, in a model file. -/
def toJson (info : ModelMeta) : Json :=
  .object [
    ("name", .string info.name),
    ("description", Json.ofText? info.description),
    ("version", .string info.version)]

/-- What a model says about itself, from a model file. -/
def read (document : Document) : Reading ModelMeta :=
  document.readRecord ["name", "description", "version"] fun record =>
    ModelMeta.mk <$> record.required "name" Document.readText
      <*> record.optional "description" none (Document.readOption Document.readText)
      <*> record.optional "version" firstVersion Document.readText

end ModelMeta

namespace Model

/-- A model in a model file. -/
def toJson (model : Model) : Json :=
  .object [
    ("meta", model.info.toJson),
    ("entities", .array (model.entities.map Entity.toJson))]

/-- A model from a model file. -/
def read (document : Document) : Reading Model :=
  document.readRecord ["meta", "entities"] fun record =>
    Model.mk <$> record.required "meta" ModelMeta.read
      <*> record.optional "entities" [] (Document.readList Entity.read)

end Model

end SchemaScript
