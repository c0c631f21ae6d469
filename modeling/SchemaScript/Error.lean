import SchemaScript.Json.Document

namespace SchemaScript

/-!
# Errors

Everything that can go wrong between reading a model and writing its script,
one constructor for each cause, and the words in which it is reported.
-/

/-- Why a model, a file or a configuration was refused. -/
inductive SchemaError where
  /-- A part of a model breaks a rule of its own. -/
  | invalid (message : String)
  | invalidEntity (entity message : String)
  | invalidField (entity field message : String)
  | invalidRelationship (message : String)
  | entityNotFound (name : String)
  | unknownColumn (entity column : String)
  | duplicateTable (table : String)
  | duplicateJoinTable (table : String)
  | unsupportedFeature (database feature : String)
  /-- The foreign keys of the listed tables form or follow a cycle. -/
  | cyclicDependency (tables : List String)
  | unsupportedDefault (column reason : String)
  /-- The operating system refused an access to a file. -/
  | fileAccess (reason : String)
  | fileRead (path reason : String)
  | fileWrite (path reason : String)
  /-- A JSON text cannot be read as what was asked for. -/
  | json (kind : FaultKind)
  | invalidModelFormat (message : String)
  | versionMismatch (expected found : UInt32)
  | invalidConfiguration (message : String)
  | internal (message : String)
  deriving DecidableEq, Repr

/-- The words for a text that cannot be read. -/
def FaultKind.message : FaultKind → String
  | .malformed => "the text is not well-formed"
  | .mismatch => "the value does not have the expected form"

namespace SchemaError

/-- The words in which an error is reported. -/
def message : SchemaError → String
  | .invalid message => "Validation error: " ++ message
  | .invalidEntity entity message =>
      "Entity validation failed for '" ++ entity ++ "': " ++ message
  | .invalidField entity field message =>
      "Field validation failed for '" ++ entity ++ "." ++ field ++ "': " ++ message
  | .invalidRelationship message => "Relationship validation failed: " ++ message
  | .entityNotFound name => "Entity not found: " ++ name
  | .unknownColumn entity column =>
      "Column '" ++ column ++ "' not found in entity '" ++ entity ++ "'"
  | .duplicateTable table =>
      "Duplicate table: '" ++ table ++ "' is declared by more than one entity"
  | .duplicateJoinTable table =>
      "Duplicate join table: '" ++ table ++
        "' is declared by more than one many-to-many relationship"
  | .unsupportedFeature database feature => database ++ " does not support " ++ feature
  | .cyclicDependency tables =>
      "Can't create schema due to cyclic fk references; unplaced tables: " ++
        ", ".intercalate tables
  | .unsupportedDefault column reason =>
      "Default for column '" ++ column ++ "' cannot be rendered: " ++ reason
  | .fileAccess reason => "IO error: " ++ reason
  | .fileRead path reason => "Failed to read file '" ++ path ++ "': " ++ reason
  | .fileWrite path reason => "Failed to write file '" ++ path ++ "': " ++ reason
  | .json kind => "JSON serialization error: " ++ kind.message
  | .invalidModelFormat message => "Invalid model file format: " ++ message
  | .versionMismatch expected found =>
      "Schema version mismatch: expected " ++ toString expected.toNat ++ ", found " ++
        toString found.toNat
  | .invalidConfiguration message => "Invalid configuration: " ++ message
  | .internal message => "Internal error: " ++ message

/-- Errors that a part of a model raises when it is validated on its own. -/
def isValidation : SchemaError → Bool
  | .invalid _ => true
  | .invalidEntity _ _ => true
  | .invalidField _ _ _ => true
  | .invalidRelationship _ => true
  | _ => false

/-- Errors that the author of a model can mend in the model. -/
def isModelError : SchemaError → Bool
  | .entityNotFound _ => true
  | .unknownColumn _ _ => true
  | .duplicateTable _ => true
  | .duplicateJoinTable _ => true
  | .unsupportedFeature _ _ => true
  | other => other.isValidation

/-- Errors of tables that cannot be put in order. -/
def isCyclic : SchemaError → Bool
  | .cyclicDependency _ => true
  | _ => false

/-- Errors of reading and writing files. -/
def isFileError : SchemaError → Bool
  | .fileAccess _ => true
  | .fileRead _ _ => true
  | .fileWrite _ _ => true
  | _ => false

end SchemaError

/-- Passes when a condition holds, and fails with an error otherwise. -/
def require (condition : Bool) (error : SchemaError) : Except SchemaError Unit :=
  if condition then .ok () else .error error

/-- Runs a check on the items of a list in order, up to the first that fails. -/
def checkAll {α : Type} (check : α → Except SchemaError Unit) :
    List α → Except SchemaError Unit
  | [] => .ok ()
  | item :: items =>
      match check item with
      | .ok () => checkAll check items
      | .error error => .error error

/-- Applies a step that can fail to the items of a list in order. -/
def collect {α β : Type} (step : α → Except SchemaError β) :
    List α → Except SchemaError (List β)
  | [] => .ok []
  | item :: items =>
      match step item with
      | .ok result =>
          match collect step items with
          | .ok results => .ok (result :: results)
          | .error error => .error error
      | .error error => .error error

end SchemaScript
