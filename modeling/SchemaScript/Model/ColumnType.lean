import SchemaScript.Dialect
import SchemaScript.Model

namespace SchemaScript.Model

/-!
# Types of columns

The type of a column is that of its field.  A field that refers to another
entity takes the type of the field that it refers to, which may refer further.
-/

/-- How many types are looked at along a chain of references. -/
def referenceDepth : Nat := 16

/-- The error of a chain of references that is too long or does not end. -/
def tooDeep (start : DataType) : SchemaError :=
  .invalid ("reference chain starting at " ++ start.display ++ " is too deep")

/-- The field that a reference points at. -/
def referencedBy (model : Model) (entity field : String) : Except SchemaError Field :=
  match model.requireEntity entity with
  | .ok target => target.referencedField (if field.isEmpty then none else some field)
  | .error error => .error error

/-- Follows references over a number of types, beginning with the last argument. -/
def followReferences (model : Model) (start : DataType) :
    Nat → DataType → Except SchemaError DataType
  | 0, _ => .error (tooDeep start)
  | steps + 1, dataType =>
      match dataType with
      | .reference entity field =>
          match model.referencedBy entity field with
          | .ok target => model.followReferences start steps target.dataType
          | .error error => .error error
      | concrete => .ok concrete

/-- The type at the end of a chain of references. -/
def concreteType (model : Model) (dataType : DataType) : Except SchemaError DataType :=
  model.followReferences dataType referenceDepth dataType

/-- The name of the type of a field's column. -/
def columnType (model : Model) (database : Database) (field : Field) :
    Except SchemaError String :=
  match model.concreteType field.dataType with
  | .ok concrete => database.sqlType concrete
  | .error error => .error error

/-- The name of the type of an entity's primary key. -/
def primaryKeyType (model : Model) (database : Database) (entity : Entity) :
    Except SchemaError String :=
  match entity.referencedField none with
  | .ok key => model.columnType database key
  | .error error => .error error

end SchemaScript.Model
