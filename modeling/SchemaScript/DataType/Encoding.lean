import SchemaScript.DataType
import SchemaScript.Json.Decoding

namespace SchemaScript.DataType

/-!
# Data types in model files

A type is written as its kind and, for those that have any, its parameters.
-/

/-- A type without parameters. -/
def kindOnly (kind : String) : Json :=
  .object [("kind", .string kind)]

/-- A type with parameters. -/
def kindWith (kind : String) (parameters : Json) : Json :=
  .object [("kind", .string kind), ("params", parameters)]

/-- A count of 32 bits. -/
def countJson (count : UInt32) : Json :=
  Json.ofNat count.toNat

/-- A type in a model file. -/
def toJson : DataType → Json
  | .string => kindOnly "String"
  | .varchar length => kindWith "Varchar" (countJson length)
  | .text => kindOnly "Text"
  | .int16 => kindOnly "Int16"
  | .int32 => kindOnly "Int32"
  | .int64 => kindOnly "Int64"
  | .float32 => kindOnly "Float32"
  | .float64 => kindOnly "Float64"
  | .decimal digits places =>
      kindWith "Decimal"
        (.object [("max_digits", countJson digits), ("decimal_places", countJson places)])
  | .bool => kindOnly "Bool"
  | .uuid => kindOnly "Uuid"
  | .dateTime => kindOnly "DateTime"
  | .date => kindOnly "Date"
  | .time => kindOnly "Time"
  | .duration => kindOnly "Duration"
  | .bytes => kindOnly "Bytes"
  | .json => kindOnly "Json"
  | .array element => kindWith "Array" element.toJson
  | .reference entity field =>
      kindWith "Reference"
        (.object [("entity_name", .string entity), ("field_name", .string field)])
  | .enumeration name variants =>
      kindWith "Enum" (.object [("name", .string name), ("variants", Json.ofTexts variants)])

/-- A type that has no parameters, by its kind. -/
def simple? (kind : String) : Option DataType :=
  if kind = "String" then some .string
  else if kind = "Text" then some .text
  else if kind = "Int16" then some .int16
  else if kind = "Int32" then some .int32
  else if kind = "Int64" then some .int64
  else if kind = "Float32" then some .float32
  else if kind = "Float64" then some .float64
  else if kind = "Bool" then some .bool
  else if kind = "Uuid" then some .uuid
  else if kind = "DateTime" then some .dateTime
  else if kind = "Date" then some .date
  else if kind = "Time" then some .time
  else if kind = "Duration" then some .duration
  else if kind = "Bytes" then some .bytes
  else if kind = "Json" then some .json
  else none

/-- The parameters of a decimal type. -/
def readDecimal (parameters : Document) : Reading DataType :=
  parameters.readObject ["max_digits", "decimal_places"] fun record =>
    DataType.decimal <$> record.required "max_digits" Document.readCount
      <*> record.required "decimal_places" Document.readCount

/-- The parameters of a reference. -/
def readReference (parameters : Document) : Reading DataType :=
  parameters.readObject ["entity_name", "field_name"] fun record =>
    DataType.reference <$> record.required "entity_name" Document.readText
      <*> record.required "field_name" Document.readText

/-- The parameters of an enumeration. -/
def readEnumeration (parameters : Document) : Reading DataType :=
  parameters.readObject ["name", "variants"] fun record =>
    DataType.enumeration <$> record.required "name" Document.readText
      <*> record.required "variants" (Document.readList Document.readText)

/-- How the content of a kind is read, given how element types are read. -/
def readKind (readElement : Document → Reading DataType) (kind : String) :
    Option (Document.Content → Reading DataType) :=
  if kind = "Varchar" then
    some (Document.Content.read fun content => DataType.varchar <$> content.readCount)
  else if kind = "Decimal" then
    some (Document.Content.read readDecimal)
  else if kind = "Array" then
    some (Document.Content.read fun content => DataType.array <$> readElement content)
  else if kind = "Reference" then
    some (Document.Content.read readReference)
  else if kind = "Enum" then
    some (Document.Content.read readEnumeration)
  else
    (simple? kind).map Document.Content.readNothing

/-- The kinds of types, in order. -/
def kinds : List String :=
  ["String", "Varchar", "Text", "Int16", "Int32", "Int64", "Float32", "Float64", "Decimal",
   "Bool", "Uuid", "DateTime", "Date", "Time", "Duration", "Bytes", "Json", "Array",
   "Reference", "Enum"]

/-- A type from a model file, with arrays of arrays up to a number of levels. -/
def readWithin : Nat → Document → Reading DataType
  | 0, document => .failed document.unfit
  | levels + 1, document =>
      document.readTagged "kind" "params" ⟨kinds, readKind (readWithin levels)⟩

/-- A type from a model file. -/
def read (document : Document) : Reading DataType :=
  readWithin (document.depth + 1) document

end SchemaScript.DataType
