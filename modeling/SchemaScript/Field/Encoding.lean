import SchemaScript.DataType.Encoding
import SchemaScript.Field

namespace SchemaScript

/-!
# Fields in model files

A field is an object with a member for each of its properties; all but its
name and type may be left out.  A default value is written as its type and,
where there is one, its value.
-/

namespace DefaultValue

/-- A default with a value. -/
def typeWith (type : String) (value : Json) : Json :=
  .object [("type", .string type), ("value", value)]

/-- A default without a value. -/
def typeOnly (type : String) : Json :=
  .object [("type", .string type)]

/-- A default value in a model file. -/
def toJson : DefaultValue → Json
  | .null => typeOnly "Null"
  | .bool value => typeWith "Bool" (.bool value)
  | .int value => typeWith "Int" (.int value.toInt)
  | .float value => typeWith "Float" (.float value)
  | .string text => typeWith "String" (.string text)
  | .insertTime => typeOnly "AutoNowAdd"
  | .updateTime => typeOnly "AutoNow"
  | .callable name => typeWith "Callable" (.string name)
  | .expression sql => typeWith "Expression" (.string sql)

/-- How the value of a type of default is read. -/
def readType (type : String) : Option (Document.Content → Reading DefaultValue) :=
  if type = "Null" then
    some (Document.Content.readNothing .null)
  else if type = "Bool" then
    some (Document.Content.read fun value => DefaultValue.bool <$> value.readBool)
  else if type = "Int" then
    some (Document.Content.read fun value => DefaultValue.int <$> value.readWhole)
  else if type = "Float" then
    some (Document.Content.read fun value => DefaultValue.float <$> value.readFloat)
  else if type = "String" then
    some (Document.Content.read fun value => DefaultValue.string <$> value.readText)
  else if type = "AutoNowAdd" then
    some (Document.Content.readNothing .insertTime)
  else if type = "AutoNow" then
    some (Document.Content.readNothing .updateTime)
  else if type = "Callable" then
    some (Document.Content.read fun value => DefaultValue.callable <$> value.readText)
  else if type = "Expression" then
    some (Document.Content.read fun value => DefaultValue.expression <$> value.readText)
  else
    none

/-- The types of defaults, in order. -/
def types : List String :=
  ["Null", "Bool", "Int", "Float", "String", "AutoNowAdd", "AutoNow", "Callable", "Expression"]

/-- A default value from a model file. -/
def read (document : Document) : Reading DefaultValue :=
  document.readTagged "type" "value" ⟨types, readType⟩

end DefaultValue

namespace Field

/-- A field in a model file. -/
def toJson (field : Field) : Json :=
  .object [
    ("name", .string field.name),
    ("column_name", .string field.columnName),
    ("data_type", field.dataType.toJson),
    ("nullable", .bool field.nullable),
    ("unique", .bool field.unique),
    ("indexed", .bool field.indexed),
    ("is_primary_key", .bool field.isPrimaryKey),
    ("generated", .bool field.generated),
    ("default_value", (field.defaultValue.map DefaultValue.toJson).getD .null),
    ("description", Json.ofText? field.description)]

/-- The members of a field. -/
def memberNames : List String :=
  ["name", "column_name", "data_type", "nullable", "unique", "indexed", "is_primary_key",
   "generated", "default_value", "description"]

/-- A field from a model file. -/
def read (document : Document) : Reading Field :=
  document.readRecord memberNames fun record =>
    Field.mk <$> record.required "name" Document.readText
      <*> record.optional "column_name" "" Document.readText
      <*> record.required "data_type" DataType.read
      <*> record.optional "nullable" false Document.readBool
      <*> record.optional "unique" false Document.readBool
      <*> record.optional "indexed" false Document.readBool
      <*> record.optional "is_primary_key" false Document.readBool
      <*> record.optional "generated" false Document.readBool
      <*> record.optional "default_value" none (Document.readOption DefaultValue.read)
      <*> record.optional "description" none (Document.readOption Document.readText)

end Field

end SchemaScript
