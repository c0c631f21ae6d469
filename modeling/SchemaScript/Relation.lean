namespace SchemaScript

/-!
# Kinds of relationships

How many rows of one entity belong to how many of another, and what happens
to a row when the row it refers to is deleted.
-/

/-- How the rows of two entities belong together. -/
inductive RelationType where
  | oneToOne
  | manyToOne
  /-- The rows are paired in a join table, whose name is derived when it is empty. -/
  | manyToMany (junction : String)
  deriving DecidableEq, Repr

namespace RelationType

/-- Whether pairs of rows need a table of their own. -/
def isManyToMany : RelationType → Bool
  | .manyToMany _ => true
  | _ => false

/-- A kind in words. -/
def display : RelationType → String
  | .oneToOne => "One to One"
  | .manyToOne => "Many to One"
  | .manyToMany _ => "Many to Many"

/-- A kind as an arrow between its two sides. -/
def arrow : RelationType → String
  | .oneToOne => "1 ─── 1"
  | .manyToOne => "* >─── 1"
  | .manyToMany _ => "* >──< *"

end RelationType

/-- What a database does with a row when the row it refers to is deleted. -/
inductive ReferentialAction where
  | cascade
  | setNull
  | restrict
  | noAction
  | setDefault
  deriving DecidableEq, Repr

namespace ReferentialAction

/-- An action in SQL. -/
def sql : ReferentialAction → String
  | .cascade => "CASCADE"
  | .setNull => "SET NULL"
  | .restrict => "RESTRICT"
  | .noAction => "NO ACTION"
  | .setDefault => "SET DEFAULT"

/-- The name of an action in files. -/
def keyword : ReferentialAction → String
  | .cascade => "cascade"
  | .setNull => "set_null"
  | .restrict => "restrict"
  | .noAction => "no_action"
  | .setDefault => "set_default"

/-- The action of a name in files. -/
def ofKeyword? (name : String) : Option ReferentialAction :=
  [cascade, setNull, restrict, noAction, setDefault].find? fun action =>
    action.keyword == name

end ReferentialAction

end SchemaScript
