import SchemaScript.Dialect

/-!
# Names of types

The databases name types in few ways: by a word of their own, by a word with a
size or with digits and places, and arrays by the name of what stands in them.
What holds of every such name is shown once for each of these ways.
-/

namespace SchemaScript.Database

/-- The names of types that have no parameter. -/
def plainTypeNames : List String :=
  ["VARCHAR(255)", "VARCHAR(40)", "CHAR(36)", "TEXT", "LONGTEXT", "SMALLINT", "INT", "BIGINT",
    "REAL", "FLOAT", "DOUBLE", "DOUBLE PRECISION", "BOOL", "UUID", "TIMESTAMPTZ", "TIMESTAMP",
    "DATETIME(6)", "DATE", "TIMETZ", "TIME", "TIME(6)", "BYTEA", "BLOB", "LONGBLOB", "JSONB",
    "JSON"]

/-- How the name of a type is put together. -/
inductive TypeName : String → Prop
  | plain {name : String} (listed : name ∈ plainTypeNames) : TypeName name
  | sized (size : Nat) : TypeName (sized "VARCHAR" size)
  | decimal (digits places : UInt32) : TypeName (decimalType digits places)
  | array {element : String} (inner : TypeName element) : TypeName (element ++ "[]")

variable {database : Database} {dataType : DataType} {name : String}

/-- What PostgreSQL calls a type is one of the names that types are made of. -/
theorem typeName_of_postgreSQLType
    (named : postgreSQLType dataType = .ok name) :
    TypeName name := by
  induction dataType generalizing name with
  | array element inductionHypothesis =>
      rw [postgreSQLType] at named
      split at named
      · next elementNamed =>
          cases named
          exact .array (inductionHypothesis elementNamed)
      · cases named
  | varchar length =>
      cases named
      exact .sized length.toNat
  | enumeration _ variants =>
      cases named
      exact .sized (enumerationWidth variants)
  | decimal digits places =>
      cases named
      exact .decimal digits places
  | _ =>
      cases named <;> exact .plain (by decide)

/-- Every database puts the names of types together in one of these ways. -/
theorem typeName_of_sqlType
    (named : database.sqlType dataType = .ok name) :
    TypeName name := by
  cases database with
  | postgreSQL =>
      exact typeName_of_postgreSQLType named
  | _ =>
      cases dataType with
      | varchar length =>
          cases named
          exact .sized length.toNat
      | enumeration _ variants =>
          cases named
          exact .sized (enumerationWidth variants)
      | decimal digits places =>
          cases named
          first
            | exact .decimal digits places
            | exact .plain (by decide)
      | _ =>
          cases named <;> exact .plain (by decide)

/-! ## Generated keys -/

/-- What follows the name of a primary key that a database assigns. -/
def generatedKeyClauses : List String :=
  ["SMALLSERIAL NOT NULL PRIMARY KEY", "SERIAL NOT NULL PRIMARY KEY",
    "BIGSERIAL NOT NULL PRIMARY KEY", "SMALLINT NOT NULL PRIMARY KEY AUTO_INCREMENT",
    "INT NOT NULL PRIMARY KEY AUTO_INCREMENT", "BIGINT NOT NULL PRIMARY KEY AUTO_INCREMENT",
    "INTEGER PRIMARY KEY AUTOINCREMENT NOT NULL"]

/-- Keys are generated by one of the listed clauses only. -/
theorem mem_generatedKeyClauses
    {clause : String}
    (assigned : database.generatedKey? dataType = some clause) :
    clause ∈ generatedKeyClauses := by
  revert assigned
  fun_cases generatedKey? database dataType <;> intro assigned <;> cases assigned <;> decide

end SchemaScript.Database
