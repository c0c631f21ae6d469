namespace SchemaScript

/-!
# Target databases

The databases that scripts are written for, and the names by which users and
files choose one.
-/

/-- A database that a script can be written for. -/
inductive Database where
  | postgreSQL
  | mySQL
  | sqlite
  deriving DecidableEq, Repr

namespace Database

/-- All databases. -/
def all : List Database :=
  [.postgreSQL, .mySQL, .sqlite]

/-- A database's own spelling of its name. -/
def display : Database → String
  | .postgreSQL => "PostgreSQL"
  | .mySQL => "MySQL"
  | .sqlite => "SQLite"

/-- The name of a database in files. -/
def keyword : Database → String
  | .postgreSQL => "postgresql"
  | .mySQL => "mysql"
  | .sqlite => "sqlite"

/-- The database of a name in files, where PostgreSQL has two shorter names. -/
def ofKeyword? (name : String) : Option Database :=
  if name = "postgresql" ∨ name = "postgres" ∨ name = "pg" then
    some .postgreSQL
  else if name = "mysql" then
    some .mySQL
  else if name = "sqlite" then
    some .sqlite
  else
    none

/-- A name with its ASCII letters in lower case. -/
def lowerName (name : String) : String :=
  String.ofList (name.toList.map Char.toLower)

/-- The database of a name in any case. -/
def ofName (name : String) : Except String Database :=
  match ofKeyword? (lowerName name) with
  | some database => .ok database
  | none =>
      .error
        ("unknown database '" ++ lowerName name ++ "', expected one of: postgres, mysql, sqlite")

end Database

end SchemaScript
