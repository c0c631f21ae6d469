import SchemaScript.DataType
import SchemaScript.Decimal.Layout
import SchemaScript.Error
import SchemaScript.Text.Identifier
import SchemaScript.Text.Quoted
import SchemaScript.Text.SnakeCase

namespace SchemaScript

/-!
# Fields

The columns of an entity as its author declares them: a logical name, the
name of the column, a type, and what else the column's definition says.
-/

/-- The value that a column takes when none is given. -/
inductive DefaultValue where
  | null
  | bool (value : Bool)
  | int (value : Int64)
  | float (value : Float)
  | string (text : String)
  /-- The time at which a row is inserted. -/
  | insertTime
  /-- The time at which a row was last changed, which the application keeps. -/
  | updateTime
  /-- A value that a function of the application computes. -/
  | callable (name : String)
  /-- An expression in the language of the database. -/
  | expression (sql : String)
  deriving BEq, Repr

namespace DefaultValue

/-- Whether the default is a time that is taken from a clock. -/
def isTimestampMarker : DefaultValue → Bool
  | .insertTime => true
  | .updateTime => true
  | _ => false

/-- Whether the application computes the default. -/
def isCallable : DefaultValue → Bool
  | .callable _ => true
  | _ => false

/-- A default in words. -/
def display : DefaultValue → String
  | .null => "null"
  | .bool value => if value then "true" else "false"
  | .int value => toString value.toInt
  | .float value => FloatLayout.plain.write value
  | .string text => Text.quoted text
  | .insertTime => "auto_now_add"
  | .updateTime => "auto_now"
  | .callable name => name ++ "()"
  | .expression sql => sql

end DefaultValue

/-- A column of an entity. -/
structure Field where
  name : String
  columnName : String
  dataType : DataType
  nullable : Bool
  unique : Bool
  indexed : Bool
  isPrimaryKey : Bool
  /-- Whether the database assigns the value. -/
  generated : Bool
  defaultValue : Option DefaultValue
  description : Option String
  deriving BEq, Repr

namespace Field

/-! ## Making fields -/

/-- A plain field, whose column name is its name in snake case. -/
def named (name : String) (dataType : DataType) : Field where
  name := name
  columnName := Text.snakeCase name
  dataType := dataType
  nullable := false
  unique := false
  indexed := false
  isPrimaryKey := false
  generated := false
  defaultValue := none
  description := none

/-- A field as primary key, which cannot be null. -/
def asPrimaryKey (field : Field) : Field :=
  { field with isPrimaryKey := true, nullable := false }

/-- The primary key that entities have from the start: a generated whole number. -/
def generatedKey : Field :=
  { (named "id" .int32).asPrimaryKey with generated := true }

/-- A primary key that is a UUID of the application's. -/
def uuidKey : Field :=
  (named "id" .uuid).asPrimaryKey

/-- The time at which a row was inserted. -/
def createdAt : Field :=
  { named "created_at" .dateTime with defaultValue := some .insertTime }

/-- The time at which a row was last changed. -/
def updatedAt : Field :=
  { named "updated_at" .dateTime with defaultValue := some .updateTime }

/-- A field to start from. -/
def placeholder : Field :=
  named "field" .string

/-! ## Looking at fields -/

/-- Whether the field is a primary key that the database assigns. -/
def isGeneratedKey (field : Field) : Bool :=
  field.isPrimaryKey && field.generated

/-- Whether the field takes the type of another entity's field. -/
def isReference (field : Field) : Bool :=
  field.dataType.isReference

/-- Whether a name is the field's own or its column's. -/
def answersTo (field : Field) (name : String) : Bool :=
  field.name == name || field.columnName == name

/-- Checks the rules that a field has to keep on its own. -/
def validate (field : Field) : Except SchemaError Unit := do
  require (!field.name.isEmpty) (.invalid "Field name cannot be empty")
  require (Text.isIdentifier field.name)
    (.invalid ("Field name '" ++ field.name ++ "' is not a valid identifier"))
  require (!field.columnName.isEmpty) (.invalid "Column name cannot be empty")
  require (!(field.generated && !field.isPrimaryKey))
    (.invalid "Only the primary key can be generated by the database")
  require (!(field.isGeneratedKey && field.defaultValue.isSome))
    (.invalid "A generated primary key cannot carry a default")
  require (!(field.isPrimaryKey && field.nullable))
    (.invalid "A primary key cannot be nullable")
  require (field.dataType != .varchar 0) (.invalid "String length must be positive")

end Field

end SchemaScript
