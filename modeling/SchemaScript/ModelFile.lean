import SchemaScript.Json.Printer
import SchemaScript.Model.Encoding

namespace SchemaScript

/-!
# Model files

A model file wraps a model together with the version of the format that it
was written in.  Loading also accepts a bare model, and fills in what its
author left out; saving always writes the whole file in the present version.
The format of numbers is a parameter of both, and files have the standard one.
-/

/-- A model and the version of the format it was written in. -/
structure ModelFile where
  schemaVersion : UInt32
  model : Model

namespace ModelFile

/-- The version of the format that is written, and the newest that is read. -/
def presentVersion : UInt32 := 1

/-- The ending of the names of model files. -/
def extension : String := "json"

/-- A model in a file of the present version. -/
def wrapping (model : Model) : ModelFile where
  schemaVersion := presentVersion
  model := model

/-- Refuses files of newer versions. -/
def checkVersion (file : ModelFile) : Except SchemaError Unit :=
  require (file.schemaVersion ≤ presentVersion)
    (.versionMismatch presentVersion file.schemaVersion)

/-- A model file as a JSON value. -/
def toJson (file : ModelFile) : Json :=
  .object [
    ("schema_version", DataType.countJson file.schemaVersion),
    ("model", file.model.toJson)]

/-- A model file from a JSON document. -/
def read (document : Document) : Reading ModelFile :=
  document.readRecord ["schema_version", "model"] fun record =>
    ModelFile.mk <$> record.required "schema_version" Document.readCount
      <*> record.required "model" Model.read

/-- The text of a model file, with its numbers in a format. -/
def writeIn (numbers : NumberFormat) (file : ModelFile) : String :=
  file.toJson.prettyIn numbers

/-- The text of a model file. -/
def write (file : ModelFile) : String :=
  file.writeIn .standard

/-- A model file from its text, which is decoded while it is scanned. -/
def ofText (text : String) : Except SchemaError ModelFile :=
  match Document.readText? read text with
  | .done file => .ok file
  | .failed fault => .error (.json fault.kind)

end ModelFile

/-- Decodes a JSON value that is held in full. -/
def Json.decode {α : Type} (read : Document → Reading α) (value : Json) :
    Except SchemaError α :=
  match Json.decode? read value with
  | some result => .ok result
  | none => .error (.json .mismatch)

/-- Reads a JSON text, with its numbers in a format. -/
def Json.ofTextIn (numbers : NumberFormat) (text : String) : Except SchemaError Json :=
  match Json.readIn? numbers Json.nestingLimit text with
  | some value => .ok value
  | none => .error (.json .malformed)

/-- Reads a JSON text. -/
def Json.ofText (text : String) : Except SchemaError Json :=
  Json.ofTextIn .standard text

namespace Model

/-- The text of a model file of the present version, with its numbers in a format. -/
def saveIn (numbers : NumberFormat) (model : Model) : String :=
  (ModelFile.wrapping model).writeIn numbers

/-- The text of a model file of the present version. -/
def save (model : Model) : String :=
  model.saveIn .standard

/-- A model as it stands in a JSON value, in a file of its own or bare. -/
def ofFileJson (value : Json) : Except SchemaError Model :=
  if (value.member? "schema_version").isSome then
    match Json.decode ModelFile.read value with
    | .ok file =>
        match file.checkVersion with
        | .ok () => .ok file.model
        | .error error => .error error
    | .error error => .error error
  else if (value.member? "meta").isSome then
    Json.decode Model.read value
  else
    .error
      (.invalidModelFormat
        "expected a model file with `schema_version` or a bare model with `meta`")

/-- Fills in what a model's author left out, and fails when something stands in the way. -/
def normalized (model : Model) : Except SchemaError Model :=
  match model.normalize with
  | (complete, .ok ()) => .ok complete
  | (_, .error error) => .error error

/-- A model from the text of a file, with its numbers in a format. -/
def loadIn (numbers : NumberFormat) (text : String) : Except SchemaError Model := do
  let value ← Json.ofTextIn numbers text
  let model ← ofFileJson value
  model.normalized

/-- A model from the text of a file. -/
def load (text : String) : Except SchemaError Model :=
  loadIn .standard text

end Model

end SchemaScript
