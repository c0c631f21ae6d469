import SchemaScript.TableId

namespace SchemaScript

/-!
# Table units

A table unit is what a script holds for one entity: the statements for its
table, the tables that these refer to, and the join tables of its
many-to-many relationships.  The form of statements is left open, so that
units can be put in order and composed without regard to it.
-/

/-- A join table and its statements. -/
structure JoinTable (Body : Type) where
  id : TableId
  body : Body
  deriving DecidableEq, Repr

/-- A table, its statements, and what belongs to it. -/
structure TableUnit (Body : Type) where
  id : TableId
  body : Body
  /-- The tables that the table refers to, in ascending order and each once. -/
  dependencies : List TableId
  joinTables : List (JoinTable Body)
  deriving DecidableEq, Repr

namespace TableUnit

/-- Changes the form of statements. -/
def map {Body Form : Type} (change : Body → Form) (unit : TableUnit Body) : TableUnit Form where
  id := unit.id
  body := change unit.body
  dependencies := unit.dependencies
  joinTables := unit.joinTables.map fun join => { id := join.id, body := change join.body }

end TableUnit

end SchemaScript
