import SchemaScript.DataType
import SchemaScript.Database
import SchemaScript.Error
import SchemaScript.TableId

namespace SchemaScript

/-!
# Dialects

What the databases write differently: the quoting of names, the names of
types, generated keys, literals, comments, and where foreign keys stand.

| database   | quotes | comments              | namespaces | foreign keys     |
|------------|--------|-----------------------|------------|------------------|
| PostgreSQL | `"`    | statements            | yes        | in the column    |
| MySQL      | backtick | clauses in the table | yes       | constraints      |
| SQLite     | `"`    | blocks in the table   | no         | in the column    |
-/

/-- How comments are attached to tables and columns. -/
inductive CommentStyle where
  /-- Statements of their own, after the table. -/
  | statement
  /-- Clauses in the table's definition. -/
  | clause
  /-- Comments of the language, in the table's definition. -/
  | block
  deriving DecidableEq, Repr

namespace Database

/-! ## Names -/

/-- The character around names. -/
def quoteMark : Database → Char
  | .mySQL => '`'
  | _ => '"'

/-- Doubles a character wherever it stands. -/
def doubleChar (mark : Char) (text : List Char) : List Char :=
  text.flatMap fun character => if character = mark then [mark, mark] else [character]

/-- A name between quotation marks; marks inside it are doubled. -/
def quote (database : Database) (name : String) : String :=
  let mark := database.quoteMark
  String.ofList (mark :: doubleChar mark name.toList ++ [mark])

/-- Names between quotation marks, separated by commas. -/
def quoteList (database : Database) (names : List String) : String :=
  ", ".intercalate (names.map database.quote)

/-- A table with its namespace, if it has one. -/
def quoteTable (database : Database) (table : TableId) : String :=
  match table.namespaceName? with
  | some name => database.quote name ++ "." ++ database.quote table.table
  | none => database.quote table.table

/-! ## Types -/

/-- How wide a column for an enumeration is: as its longest variant, but not empty. -/
def enumerationWidth (variants : List String) : Nat :=
  (variants.map String.length).foldl max 1

/-- A type with one parameter. -/
def sized (name : String) (size : Nat) : String :=
  name ++ "(" ++ toString size ++ ")"

/-- References have to be followed before types are named. -/
def unresolvedReference (dataType : DataType) : SchemaError :=
  .internal ("reference type " ++ dataType.display ++ " reached the dialect unresolved")

/-- The exact decimal type of PostgreSQL and MySQL. -/
def decimalType (digits places : UInt32) : String :=
  "DECIMAL(" ++ toString digits.toNat ++ "," ++ toString places.toNat ++ ")"

/-- The names of types in PostgreSQL. -/
def postgreSQLType : DataType → Except SchemaError String
  | .string => .ok "VARCHAR(255)"
  | .varchar length => .ok (sized "VARCHAR" length.toNat)
  | .text => .ok "TEXT"
  | .int16 => .ok "SMALLINT"
  | .int32 => .ok "INT"
  | .int64 => .ok "BIGINT"
  | .float32 => .ok "REAL"
  | .float64 => .ok "DOUBLE PRECISION"
  | .decimal digits places => .ok (decimalType digits places)
  | .bool => .ok "BOOL"
  | .uuid => .ok "UUID"
  | .dateTime => .ok "TIMESTAMPTZ"
  | .date => .ok "DATE"
  | .time => .ok "TIMETZ"
  | .duration => .ok "BIGINT"
  | .bytes => .ok "BYTEA"
  | .json => .ok "JSONB"
  | .array element =>
      match postgreSQLType element with
      | .ok name => .ok (name ++ "[]")
      | .error error => .error error
  | .reference entity field => .error (unresolvedReference (.reference entity field))
  | .enumeration _ variants => .ok (sized "VARCHAR" (enumerationWidth variants))

/-- The names of types in MySQL. -/
def mySQLType : DataType → Except SchemaError String
  | .string => .ok "VARCHAR(255)"
  | .varchar length => .ok (sized "VARCHAR" length.toNat)
  | .text => .ok "LONGTEXT"
  | .int16 => .ok "SMALLINT"
  | .int32 => .ok "INT"
  | .int64 => .ok "BIGINT"
  | .float32 => .ok "FLOAT"
  | .float64 => .ok "DOUBLE"
  | .decimal digits places => .ok (decimalType digits places)
  | .bool => .ok "BOOL"
  | .uuid => .ok "CHAR(36)"
  | .dateTime => .ok "DATETIME(6)"
  | .date => .ok "DATE"
  | .time => .ok "TIME(6)"
  | .duration => .ok "BIGINT"
  | .bytes => .ok "LONGBLOB"
  | .json => .ok "JSON"
  | .array _ => .ok "JSON"
  | .reference entity field => .error (unresolvedReference (.reference entity field))
  | .enumeration _ variants => .ok (sized "VARCHAR" (enumerationWidth variants))

/-- The names of types in SQLite. -/
def sqliteType : DataType → Except SchemaError String
  | .string => .ok "VARCHAR(255)"
  | .varchar length => .ok (sized "VARCHAR" length.toNat)
  | .text => .ok "TEXT"
  | .int16 => .ok "SMALLINT"
  | .int32 => .ok "INT"
  | .int64 => .ok "BIGINT"
  | .float32 => .ok "REAL"
  | .float64 => .ok "REAL"
  | .decimal _ _ => .ok "VARCHAR(40)"
  | .bool => .ok "INT"
  | .uuid => .ok "CHAR(36)"
  | .dateTime => .ok "TIMESTAMP"
  | .date => .ok "DATE"
  | .time => .ok "TIME"
  | .duration => .ok "BIGINT"
  | .bytes => .ok "BLOB"
  | .json => .ok "JSON"
  | .array _ => .ok "JSON"
  | .reference entity field => .error (unresolvedReference (.reference entity field))
  | .enumeration _ variants => .ok (sized "VARCHAR" (enumerationWidth variants))

/-- The name of a type that is no reference. -/
def sqlType (database : Database) (dataType : DataType) : Except SchemaError String :=
  match database with
  | .postgreSQL => postgreSQLType dataType
  | .mySQL => mySQLType dataType
  | .sqlite => sqliteType dataType

/-- What follows the name of a primary key that the database assigns, if it can for the type. -/
def generatedKey? (database : Database) (dataType : DataType) : Option String :=
  match database, dataType with
  | .postgreSQL, .int16 => some "SMALLSERIAL NOT NULL PRIMARY KEY"
  | .postgreSQL, .int32 => some "SERIAL NOT NULL PRIMARY KEY"
  | .postgreSQL, .int64 => some "BIGSERIAL NOT NULL PRIMARY KEY"
  | .mySQL, .int16 => some "SMALLINT NOT NULL PRIMARY KEY AUTO_INCREMENT"
  | .mySQL, .int32 => some "INT NOT NULL PRIMARY KEY AUTO_INCREMENT"
  | .mySQL, .int64 => some "BIGINT NOT NULL PRIMARY KEY AUTO_INCREMENT"
  -- SQLite assigns keys of this one type only, for whole numbers of any size
  | .sqlite, .int16 => some "INTEGER PRIMARY KEY AUTOINCREMENT NOT NULL"
  | .sqlite, .int32 => some "INTEGER PRIMARY KEY AUTOINCREMENT NOT NULL"
  | .sqlite, .int64 => some "INTEGER PRIMARY KEY AUTOINCREMENT NOT NULL"
  | _, _ => none

/-! ## Literals -/

/-- The present time. -/
def currentTimestamp : Database → String
  | .mySQL => "CURRENT_TIMESTAMP(6)"
  | _ => "CURRENT_TIMESTAMP"

/-- A truth value. -/
def boolLiteral (database : Database) (value : Bool) : String :=
  match database with
  | .postgreSQL => if value then "TRUE" else "FALSE"
  | _ => if value then "1" else "0"

/-- The inside of a text literal: apostrophes are doubled. -/
def escapeLiteral (text : String) : String :=
  String.ofList (doubleChar '\'' text.toList)

/-- Takes every ending of a block comment apart. -/
def openBlockEnds : List Char → List Char
  | '*' :: '/' :: rest => '*' :: ' ' :: '/' :: openBlockEnds rest
  | character :: rest => character :: openBlockEnds rest
  | [] => []

/-- How comments are attached. -/
def commentStyle : Database → CommentStyle
  | .postgreSQL => .statement
  | .mySQL => .clause
  | .sqlite => .block

/-- The inside of a comment. -/
def escapeComment (database : Database) (text : String) : String :=
  match database.commentStyle with
  | .block => String.ofList (openBlockEnds (escapeLiteral text).toList)
  | _ => escapeLiteral text

/-! ## Statements -/

/-- Whether foreign keys stand in their columns; otherwise they are constraints of the table. -/
def inlineReferences : Database → Bool
  | .mySQL => false
  | _ => true

/-- Whether tables can lie in namespaces. -/
def supportsNamespaces : Database → Bool
  | .sqlite => false
  | _ => true

/-- Whether an index can be created unless it exists. -/
def guardsIndexes : Database → Bool
  | .mySQL => false
  | _ => true

/-- What follows the definition of a table. -/
def tableSuffix : Database → String
  | .mySQL => " CHARACTER SET utf8mb4"
  | _ => ""

end Database

end SchemaScript
