namespace SchemaScript

/-!
# Named values

Values under names, in the order in which the names came up.
-/

/-- Values under names. -/
abbrev Named (α : Type) := List (String × α)

namespace Named

variable {α : Type}

/-- The value under a name. -/
def lookup (name : String) : Named α → Option α
  | [] => none
  | (other, value) :: rest => if other = name then some value else lookup name rest

/-- Puts a value under a name: in the place of an earlier one, else at the end. -/
def put (name : String) (value : α) : Named α → Named α
  | [] => [(name, value)]
  | (other, earlier) :: rest =>
      if other = name then
        (name, value) :: rest
      else
        (other, earlier) :: put name value rest

end Named

end SchemaScript
