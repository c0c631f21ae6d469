import SchemaScript.Report.Rules
import SchemaScript.TableUnit.Assembly
import SchemaScript.TableUnit.Order

namespace SchemaScript

open Sql

/-!
# Scripts

The script of a model creates the namespaces of its entities, then their
tables in an order in which references lead back, then the join tables.  A
model has to be valid for a script to be written; what its report warns of is
handed on with the script.
-/

/-- The namespaces that tables lie in, each once, in the order of their discovery. -/
abbrev Namespaces := List String

/-- Adds a namespace unless it is known; some databases have none. -/
def discoverNamespace (database : Database) (known : Namespaces) :
    Option String → Except SchemaError Namespaces
  | none => .ok known
  | some name =>
      if name.isEmpty then
        .ok known
      else if !database.supportsNamespaces then
        .error (.unsupportedFeature database.display ("namespace \"" ++ name ++ "\""))
      else if known.contains name then
        .ok known
      else
        .ok (known ++ [name])

/-- Blocks of statements: namespaces, tables, then the join tables of each table. -/
def scriptBlocks (target : Target) (namespaces : Namespaces) (units : List (TableUnit String)) :
    List String :=
  (namespaces.map fun name => (Statement.createNamespace name).sql target) ++
    (units.map (·.body)) ++
    units.flatMap fun unit => unit.joinTables.map (·.body)

/-- The text of a script. -/
def composeScript (target : Target) (namespaces : Namespaces)
    (units : List (TableUnit String)) : String :=
  "\n".intercalate (scriptBlocks target namespaces units)

/-- What a script holds, before it is written out. -/
structure Plan where
  namespaces : Namespaces
  /-- The tables in the order of their creation. -/
  units : List (TableUnit (List Statement))
  warnings : List String

namespace Plan

/-- The units of some entities, and the namespaces discovered with them. -/
def unitsOf (model : Model) (database : Database) (known : Namespaces) :
    List Entity → Except SchemaError (Namespaces × List (TableUnit (List Statement)))
  | [] => .ok (known, [])
  | entity :: later =>
      match discoverNamespace database known entity.namespaceName? with
      | .ok namespaces =>
          match TableUnit.ofEntity model database entity with
          | .ok unit =>
              match unitsOf model database namespaces later with
              | .ok (complete, units) => .ok (complete, unit :: units)
              | .error error => .error error
          | .error error => .error error
      | .error error => .error error

/-- The plan of a model's script for a database. -/
def ofModel (model : Model) (database : Database) : Except SchemaError Plan := do
  model.validate
  let report := Report.ofModel model
  report.toResult
  let (namespaces, units) ← unitsOf model database [] model.entities
  let ordered ← TableUnit.order units
  .ok {
    namespaces
    units := ordered
    warnings := report.warnings.map ReportWarning.display }

/-- All statements of a plan, in order. -/
def statements (plan : Plan) : List Statement :=
  (plan.namespaces.map .createNamespace) ++ (plan.units.flatMap (·.body)) ++
    plan.units.flatMap fun unit => unit.joinTables.flatMap (·.body)

/-- The tables of the entities, in the order of their creation. -/
def tables (plan : Plan) : List TableId :=
  plan.units.map (·.id)

/-- The join tables, in the order of their creation. -/
def joinTables (plan : Plan) : List TableId :=
  plan.units.flatMap fun unit => unit.joinTables.map (·.id)

end Plan

/-- A script and what it was written from. -/
structure Script where
  modelName : String
  database : Database
  namespaces : Namespaces
  tables : List TableId
  joinTables : List TableId
  sql : String
  warnings : List String
  deriving DecidableEq, Repr

namespace Script

/-- Writes out a plan. -/
def ofPlan (modelName : String) (target : Target) (plan : Plan) : Script where
  modelName := modelName
  database := target.database
  namespaces := plan.namespaces
  tables := plan.tables
  joinTables := plan.joinTables
  sql := composeScript target plan.namespaces (plan.units.map (TableUnit.map (block target)))
  warnings := plan.warnings

/-- The script of a model for a target. -/
def generate (model : Model) (target : Target) : Except SchemaError Script :=
  match Plan.ofModel model target.database with
  | .ok plan => .ok (ofPlan model.info.name target plan)
  | .error error => .error error

/-- A line without the carriage return at its end. -/
def dropReturn (line : List Char) : List Char :=
  if line.getLast? = some '\r' then line.dropLast else line

/-- The lines of a text; a carriage return before a line break does not belong to its line. -/
def linesOf (text : String) : List (List Char) :=
  match (text.toList.splitOn '\n').reverse with
  | [] => []
  | last :: earlier => (last :: earlier.map dropReturn).reverse

/-- How many lines of the script end a statement. -/
def statementCount (script : Script) : Nat :=
  (linesOf script.sql).countP fun line => line.getLast? == some ';'

/-- How many bytes the script takes. -/
def size (script : Script) : Nat :=
  script.sql.utf8ByteSize

end Script

end SchemaScript
