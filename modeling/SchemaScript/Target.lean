import SchemaScript.Dialect
import SchemaScript.Json.Decoding

namespace SchemaScript

/-!
# Targets

What a script is written for: a database, and whether its statements leave
alone what exists already.
-/

/-- What a script is written for. -/
structure Target where
  database : Database
  /-- Whether statements pass over what exists already. -/
  safe : Bool
  deriving DecidableEq, Repr

namespace Target

/-- A safe script for PostgreSQL. -/
def standard : Target where
  database := .postgreSQL
  safe := true

/-- The guard of statements that create namespaces and tables. -/
def guard (target : Target) : String :=
  if target.safe then "IF NOT EXISTS " else ""

/-- The guard of statements that create indexes. -/
def indexGuard (target : Target) : String :=
  if target.safe && target.database.guardsIndexes then "IF NOT EXISTS " else ""

/-- A target from a configuration, where both parts may be left out. -/
def read (document : Document) : Reading Target :=
  document.readRecord ["database", "safe"] fun record =>
    Target.mk
      <$> record.optional "database" standard.database (Document.readName Database.ofKeyword?)
      <*> record.optional "safe" standard.safe Document.readBool

end Target

end SchemaScript
