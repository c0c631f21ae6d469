import SchemaScript.CommandLine
import SchemaScript.File.Storage
import SchemaScript.Report.Rules
import SchemaScript.Script.Summary

namespace SchemaScript

/-!
# Commands

What each command does with the files around it, what it prints, and how it
fails.  Scripts and findings go to the output; what is told about a script
that has been written goes to the notices.
-/

/-- Why a command failed: what it was about, and what went wrong with it. -/
structure Failure where
  message : String
  cause : Option SchemaError
  deriving DecidableEq, Repr

/-- What a command printed, and whether it failed in the end. -/
structure Outcome where
  output : String
  notices : String
  failure : Option Failure
  deriving DecidableEq, Repr

namespace Outcome

/-- A command that failed after it had printed something. -/
def failed (output : String) (failure : Failure) : Outcome where
  output := output
  notices := ""
  failure := some failure

/-- A command that printed something and succeeded. -/
def printed (output : String) : Outcome where
  output := output
  notices := ""
  failure := none

/-- A command that told about what it had written. -/
def noted (notices : String) : Outcome where
  output := ""
  notices := notices
  failure := none

end Outcome

/-- Lines of text, each with its end. -/
def textOfLines (lines : List String) : String :=
  String.join (lines.map (· ++ "\n"))

namespace Command

variable {Action : Type → Type} [Monad Action] [FileAccess Action]

/-- Runs a step of a command, and says what it was about when it fails. -/
def about {α : Type} (message : String) (step : ExceptT SchemaError Action α) :
    ExceptT Failure Action α := do
  match ← (step.run : Action _) with
  | .ok result => return result
  | .error error => throw { message, cause := some error }

/-- Loads the model of a command. -/
def loadModel (path : String) : ExceptT Failure Action Model :=
  about ("failed to load model '" ++ path ++ "'") (Storage.loadModel path)

/-- The outcome of steps that end with one. -/
def outcomeOf (output : String) (steps : ExceptT Failure Action Outcome) : Action Outcome := do
  match ← steps.run with
  | .ok outcome => return outcome
  | .error failure => return .failed output failure

/-! ## Writing scripts -/

/-- What the command line says about settings. -/
def overrides (options : GenerateOptions) : Settings.Overrides where
  database := options.database
  noSafe := options.noSafe
  outputDirectory := options.output

/-- Prints a model's script, or writes it to a file whose name begins with the date. -/
def generateSteps (stamp : String) (options : GenerateOptions) :
    ExceptT Failure Action Outcome := do
  let found ←
    about "failed to read configuration" (Storage.discoverSettings options.config ".")
  let settings := found.override (overrides options)
  let model ← loadModel options.model
  let subject := "failed to generate schema for '" ++ model.info.name ++ "'"
  match settings.outputDirectory with
  | none =>
      let script ← about subject (ExceptT.mk (pure (Script.generate model settings.target)))
      return .printed (textOfLines [script.sql])
  | some directory =>
      let path := FilePath.within directory (settings.scriptFile stamp)
      let script ← about subject (Storage.generate model settings.target path)
      return .noted ((Summary.ofScript script).display ++ textOfLines ["✓ Wrote " ++ path])

/-! ## Reports -/

/-- What is said about a model, line by line. -/
def reportLines (report : Report) : List String :=
  (report.errors.map fun error => "  ✗ " ++ error.display) ++
    report.warnings.map fun warning => "  ! " ++ warning.display

/-- Says what is wrong with a model; fails when there are errors. -/
def validateOutcome (heading : String) (model : Model) : Outcome :=
  let report := Report.ofRules Rule.all model
  let lines := heading :: reportLines report
  if report.hasErrors then
    .failed (textOfLines lines)
      { message := "model has " ++ toString report.errors.length ++ " error(s)", cause := none }
  else
    .printed (textOfLines (lines ++
      ["✓ Model is valid (" ++ toString model.entities.length ++ " entities, " ++
        toString report.warnings.length ++ " warning(s))"]))

/-- Says what is wrong with the model of a file. -/
def validateSteps (heading path : String) : ExceptT Failure Action Outcome := do
  let model ← loadModel path
  return validateOutcome heading model

/-! ## Contents of models -/

/-- An entity and where its relationships lead. -/
def entityLines (entity : Entity) : List String :=
  ["", entity.name ++ " " ++ entity.tableId.display ++ " (" ++
      toString entity.fields.length ++ " fields)"] ++
    entity.relationships.map fun relationship =>
      "  " ++ relationship.name ++ " " ++ relationship.relationType.arrow ++ " " ++
        relationship.toEntity

/-- What a model holds, line by line. -/
def infoLines (model : Model) : List String :=
  let described := model.info.description.map fun words => "  Description:   " ++ words
  let names :=
    if model.namespaces.isEmpty then
      []
    else
      ["  Namespaces:    " ++ ", ".intercalate model.namespaces]
  ["Model: " ++ model.info.name, "  Version:       " ++ model.info.version] ++
    described.toList ++
    ["  Entities:      " ++ toString model.entities.length,
      "  Relationships: " ++ toString model.relationshipCount] ++
    names ++ model.entities.flatMap entityLines

/-- Tells what the model of a file holds. -/
def infoSteps (path : String) : ExceptT Failure Action Outcome := do
  let model ← loadModel path
  return .printed (textOfLines (infoLines model))

/-! ## All commands -/

/-- Runs a command on the date of a stamp. -/
def run (stamp : String) : Command → Action Outcome
  | .generate options => outcomeOf "" (generateSteps stamp options)
  | .validate path =>
      let heading := "Validating model: " ++ path
      outcomeOf (textOfLines [heading]) (validateSteps heading path)
  | .info path => outcomeOf "" (infoSteps path)

end Command

end SchemaScript
