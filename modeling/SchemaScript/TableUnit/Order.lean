import SchemaScript.Error
import SchemaScript.TableUnit

namespace SchemaScript.TableUnit

/-!
# The order of tables

A table can be created once the tables it refers to have been; it may refer to
itself.  Again and again the first of the remaining tables that can be created
is taken, so that tables keep the order of their declaration as far as
references allow.  When none can be created, those that remain form or follow
a cycle.
-/

variable {Body : Type}

/-- Whether a table can be created after the tables in `placed`. -/
def placeable (placed : List TableId) (unit : TableUnit Body) : Bool :=
  unit.dependencies.all fun target => target == unit.id || placed.contains target

/-- The first item that passes a test, and the other items in their order. -/
def takeFirst? {α : Type} (test : α → Bool) : List α → Option (α × List α)
  | [] => none
  | item :: items =>
      if test item then
        some (item, items)
      else
        match takeFirst? test items with
        | some (found, rest) => some (found, item :: rest)
        | none => none

/-- Taking an item leaves one item less. -/
theorem length_of_takeFirst?
    {α : Type}
    {test : α → Bool}
    {items rest : List α}
    {found : α}
    (taken : takeFirst? test items = some (found, rest)) :
    rest.length + 1 = items.length := by
  induction items generalizing rest with
  | nil => simp [takeFirst?] at taken
  | cons item later inductionHypothesis =>
      simp only [takeFirst?] at taken
      split at taken
      · cases taken
        rfl
      · split at taken
        · next other tail laterTaken =>
            cases taken
            simp [inductionHypothesis laterTaken]
        · cases taken

/-- Puts tables in order after the tables in `placed`. -/
def orderAfter (placed : List TableId) (pending : List (TableUnit Body)) :
    Except SchemaError (List (TableUnit Body)) :=
  match pending with
  | [] => .ok []
  | first :: later =>
      match _taken : takeFirst? (placeable placed) (first :: later) with
      | some (unit, rest) =>
          match orderAfter (unit.id :: placed) rest with
          | .ok ordered => .ok (unit :: ordered)
          | .error error => .error error
      | none => .error (.cyclicDependency ((first :: later).map fun unit => unit.id.display))
termination_by pending.length
decreasing_by
  have shorter := length_of_takeFirst? _taken
  simp only [List.length_cons] at shorter ⊢
  omega

/-- Puts tables in an order in which they can be created. -/
def order (units : List (TableUnit Body)) : Except SchemaError (List (TableUnit Body)) :=
  orderAfter [] units

end SchemaScript.TableUnit
