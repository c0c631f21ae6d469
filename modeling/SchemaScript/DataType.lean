namespace SchemaScript

/-!
# Data types

The types that a field can declare, independent of any database.
-/

/-- The type of a field. -/
inductive DataType where
  | string
  | varchar (length : UInt32)
  | text
  | int16
  | int32
  | int64
  | float32
  | float64
  | decimal (digits places : UInt32)
  | bool
  | uuid
  | dateTime
  | date
  | time
  | duration
  | bytes
  | json
  | array (element : DataType)
  /-- The type of a field of another entity; its primary key when the field is empty. -/
  | reference (entity field : String)
  | enumeration (name : String) (variants : List String)
  deriving DecidableEq, Repr

namespace DataType

/-- Whether the type is that of another entity's field. -/
def isReference : DataType → Bool
  | .reference _ _ => true
  | _ => false

/-- Whether values of the type are whole numbers. -/
def isInteger : DataType → Bool
  | .int16 => true
  | .int32 => true
  | .int64 => true
  | _ => false

/-- Whether a default value may be written into the column's definition. -/
def inlinesDefault : DataType → Bool
  | .text => false
  | .json => false
  | .uuid => false
  | .array _ => false
  | _ => true

/-- A type in words. -/
def display : DataType → String
  | .string => "String"
  | .varchar length => "String(" ++ toString length.toNat ++ ")"
  | .text => "Text"
  | .int16 => "Small Integer"
  | .int32 => "Integer"
  | .int64 => "Big Integer"
  | .float32 => "Float"
  | .float64 => "Double"
  | .decimal digits places =>
      "Decimal(" ++ toString digits.toNat ++ ", " ++ toString places.toNat ++ ")"
  | .bool => "Boolean"
  | .uuid => "UUID"
  | .dateTime => "DateTime"
  | .date => "Date"
  | .time => "Time"
  | .duration => "Duration"
  | .bytes => "Binary"
  | .json => "JSON"
  | .array element => "[" ++ element.display ++ "]"
  | .reference entity _ => "Ref<" ++ entity ++ ">"
  | .enumeration name _ => "Enum<" ++ name ++ ">"

end DataType

end SchemaScript
