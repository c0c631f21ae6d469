import SchemaScript.Error

namespace SchemaScript

/-!
# Unique groups and indexes

What an entity declares over several of its columns.  Columns are given by
any name that finds a field: its own, its column's, or that of the
relationship that owns it.
-/

/-- Columns whose values together are unique. -/
structure UniqueGroup where
  fields : List String
  deriving DecidableEq, Repr

namespace UniqueGroup

/-- Checks the rule that a group has to keep on its own. -/
def validate (group : UniqueGroup) : Except SchemaError Unit :=
  require (!group.fields.isEmpty) (.invalid "Unique group cannot be empty")

end UniqueGroup

/-- A declared index; its name is derived when none is given. -/
structure Index where
  name : Option String
  fields : List String
  unique : Bool
  deriving DecidableEq, Repr

namespace Index

/-- Checks the rules that an index has to keep on its own. -/
def validate (index : Index) : Except SchemaError Unit := do
  require (!index.fields.isEmpty) (.invalid "Index must cover at least one field")
  require (index.name != some "") (.invalid "Index name cannot be empty")

end Index

end SchemaScript
