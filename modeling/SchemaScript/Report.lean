import SchemaScript.Error

namespace SchemaScript

/-!
# Reports

A report lists everything that is wrong with a model at once, and what may be
unintended besides.  Reports are put together from smaller ones.
-/

/-- What an error of a report is about. -/
inductive ErrorCode where
  | emptyEntityName
  | invalidEntityName
  | duplicateEntityName
  | emptyTableName
  | duplicateTable
  | noPrimaryKey
  | compositePrimaryKey
  | emptyFieldName
  | invalidFieldName
  | duplicateFieldName
  | duplicateColumnName
  | generatedNonPrimaryKey
  | generatedKeyWithDefault
  | orphanRelationship
  | unknownTargetField
  | missingReferenceColumn
  | duplicateJoinTable
  | invalidRelationship
  | emptyIndex
  | unknownIndexColumn
  | emptyModelName
  deriving DecidableEq, Repr

/-- The name of an error code. -/
def ErrorCode.name : ErrorCode → String
  | .emptyEntityName => "EmptyEntityName"
  | .invalidEntityName => "InvalidEntityName"
  | .duplicateEntityName => "DuplicateEntityName"
  | .emptyTableName => "EmptyTableName"
  | .duplicateTable => "DuplicateTable"
  | .noPrimaryKey => "NoPrimaryKey"
  | .compositePrimaryKey => "CompositePrimaryKey"
  | .emptyFieldName => "EmptyFieldName"
  | .invalidFieldName => "InvalidFieldName"
  | .duplicateFieldName => "DuplicateFieldName"
  | .duplicateColumnName => "DuplicateColumnName"
  | .generatedNonPrimaryKey => "GeneratedNonPrimaryKey"
  | .generatedKeyWithDefault => "GeneratedKeyWithDefault"
  | .orphanRelationship => "OrphanRelationship"
  | .unknownTargetField => "UnknownTargetField"
  | .missingReferenceColumn => "MissingReferenceColumn"
  | .duplicateJoinTable => "DuplicateJoinTable"
  | .invalidRelationship => "InvalidRelationship"
  | .emptyIndex => "EmptyIndex"
  | .unknownIndexColumn => "UnknownIndexColumn"
  | .emptyModelName => "EmptyModelName"

/-- What a warning of a report is about. -/
inductive WarningCode where
  | noDescription
  | defaultNotRendered
  | logicalOnlyRelationship
  | duplicateIndex
  | emptyModel
  deriving DecidableEq, Repr

/-- The name of a warning code. -/
def WarningCode.name : WarningCode → String
  | .noDescription => "NoDescription"
  | .defaultNotRendered => "DefaultNotRendered"
  | .logicalOnlyRelationship => "LogicalOnlyRelationship"
  | .duplicateIndex => "DuplicateIndex"
  | .emptyModel => "EmptyModel"

/-- Something wrong with a model: where it stands, and what may help. -/
structure ReportError where
  code : ErrorCode
  message : String
  path : Option String
  suggestion : Option String
  deriving DecidableEq, Repr

/-- The words of an error. -/
def ReportError.display (error : ReportError) : String :=
  match error.path with
  | some path => "[" ++ path ++ "] " ++ error.message
  | none => error.message

/-- Something in a model that may be unintended, and where it stands. -/
structure ReportWarning where
  code : WarningCode
  message : String
  path : Option String
  deriving DecidableEq, Repr

/-- The words of a warning. -/
def ReportWarning.display (warning : ReportWarning) : String :=
  match warning.path with
  | some path => "[" ++ path ++ "] Warning: " ++ warning.message
  | none => "Warning: " ++ warning.message

/-- What was found in a model, in the order in which it was found. -/
structure Report where
  /-- Whether nothing was found wrong. -/
  valid : Bool
  errors : List ReportError
  warnings : List ReportWarning
  deriving DecidableEq, Repr

namespace Report

/-- Nothing to report. -/
def clean : Report where
  valid := true
  errors := []
  warnings := []

/-- One error. -/
def ofError (error : ReportError) : Report where
  valid := false
  errors := [error]
  warnings := []

/-- Adds an error. -/
def addError (report : Report) (error : ReportError) : Report :=
  { report with valid := false, errors := report.errors ++ [error] }

/-- Adds a warning. -/
def addWarning (report : Report) (warning : ReportWarning) : Report :=
  { report with warnings := report.warnings ++ [warning] }

/-- One report after another. -/
def merge (first second : Report) : Report where
  valid := first.valid && second.valid
  errors := first.errors ++ second.errors
  warnings := first.warnings ++ second.warnings

/-- Several reports, one after another. -/
def mergeAll (reports : List Report) : Report :=
  reports.foldl merge clean

/-- An error if a condition holds. -/
def errorIf (condition : Bool) (error : ReportError) : Report :=
  if condition then ofError error else clean

/-- A warning if a condition holds. -/
def warningIf (condition : Bool) (warning : ReportWarning) : Report :=
  if condition then clean.addWarning warning else clean

/-- Whether errors are reported. -/
def hasErrors (report : Report) : Bool :=
  !report.errors.isEmpty

/-- Whether warnings are reported. -/
def hasWarnings (report : Report) : Bool :=
  !report.warnings.isEmpty

/-- Fails with all errors of a report, unless it is valid. -/
def toResult (report : Report) : Except SchemaError Unit :=
  require report.valid
    (.invalid ("; ".intercalate (report.errors.map ReportError.display)))

end Report

end SchemaScript
