import SchemaScript.Script

namespace SchemaScript

/-!
# Summaries of scripts

A boxed table of what a script holds, for people to read.
-/

/-- What people want to know about a script. -/
structure Summary where
  modelName : String
  database : String
  namespaces : Nat
  tables : Nat
  joinTables : Nat
  statements : Nat
  warnings : Nat
  bytes : Nat
  deriving DecidableEq, Repr

namespace Summary

/-- The summary of a script. -/
def ofScript (script : Script) : Summary where
  modelName := script.modelName
  database := script.database.display
  namespaces := script.namespaces.length
  tables := script.tables.length
  joinTables := script.joinTables.length
  statements := script.statementCount
  warnings := script.warnings.length
  bytes := script.size

/-- Fills a text up with blanks at its end. -/
def padEnd (width : Nat) (text : String) : String :=
  text ++ String.ofList (List.replicate (width - text.length) ' ')

/-- A quotient rounded to the nearest whole number; half way between, to the even one. -/
def roundDiv (numerator denominator : Nat) : Nat :=
  let quotient := numerator / denominator
  let remainder := numerator % denominator
  if denominator < 2 * remainder ∨ (2 * remainder = denominator ∧ quotient % 2 = 1) then
    quotient + 1
  else
    quotient

/-- A size in bytes, or in kilobytes with one place from the first one on. -/
def sizeText (bytes : Nat) : String :=
  if bytes < 1024 then
    toString bytes ++ " B"
  else
    let tenths := roundDiv (10 * bytes) 1024
    toString (tenths / 10) ++ "." ++ toString (tenths % 10) ++ " KB"

/-- A row of the box. -/
def row (label value : String) : String :=
  "║  " ++ padEnd 13 label ++ padEnd 35 value ++ "║\n"

/-- A summary in writing. -/
def display (summary : Summary) : String :=
  String.join [
    "╔══════════════════════════════════════════════════╗\n",
    "║         Schema Generation Complete               ║\n",
    "╠══════════════════════════════════════════════════╣\n",
    row "Model:" summary.modelName,
    row "Database:" summary.database,
    row "Namespaces:" (toString summary.namespaces),
    row "Tables:" (toString summary.tables),
    row "Join tables:" (toString summary.joinTables),
    row "Statements:" (toString summary.statements),
    row "Warnings:" (toString summary.warnings),
    row "Size:" (sizeText summary.bytes),
    "╚══════════════════════════════════════════════════╝\n"]

end Summary

end SchemaScript
