namespace SchemaScript

/-!
# JSON values

The values that model files and configurations are made of.  Whole numbers
are kept apart from floating-point numbers, and the members of an object keep
their order.
-/

/-- A JSON value. -/
inductive Json where
  | null
  | bool (value : Bool)
  | int (value : Int)
  | float (value : Float)
  | string (text : String)
  | array (items : List Json)
  | object (members : List (String × Json))

namespace Json

/-- Text, or null where there is none. -/
def ofText? : Option String → Json
  | some text => .string text
  | none => .null

/-- A natural number. -/
def ofNat (number : Nat) : Json :=
  .int (Int.ofNat number)

/-- A list of texts. -/
def ofTexts (texts : List String) : Json :=
  .array (texts.map .string)

/-- The value of an object's member; nothing for other values. -/
def member? (name : String) : Json → Option Json
  | .object members => (members.find? fun member => member.1 == name).map Prod.snd
  | _ => none

end Json

end SchemaScript
