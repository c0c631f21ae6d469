import SchemaScript.File.Access
import SchemaScript.File.Path
import SchemaScript.ModelFile
import SchemaScript.Script
import SchemaScript.Settings

namespace SchemaScript

/-!
# Models, scripts and settings in files

Reading and writing at paths, wherever texts are kept.  A refused access is
reported with the path of the file or the directory.
-/

namespace Storage

variable {Action : Type → Type} [Monad Action] [FileAccess Action]

/-- The text of a file. -/
def readText (path : String) : ExceptT SchemaError Action String := do
  match ← (FileAccess.readText path : Action _) with
  | .ok text => return text
  | .error fault => throw (.fileRead path fault.message)

/-- Puts a text into a file. -/
def writeText (path text : String) : ExceptT SchemaError Action Unit := do
  match ← (FileAccess.writeText path text : Action _) with
  | .ok () => return ()
  | .error fault => throw (.fileWrite path fault.message)

/-- Creates a directory where it is missing. -/
def createDirectories (path : String) : ExceptT SchemaError Action Unit := do
  match ← (FileAccess.createDirectories path : Action _) with
  | .ok () => return ()
  | .error fault => throw (.fileWrite path fault.message)

/-! ## Models -/

/-- A model file as it stands, of whatever version. -/
def loadModelFile (path : String) : ExceptT SchemaError Action ModelFile := do
  let text ← readText path
  ExceptT.mk (pure (ModelFile.ofText text))

/-- Writes a model file as it is. -/
def saveModelFile (file : ModelFile) (path : String) : ExceptT SchemaError Action Unit :=
  writeText path file.write

/-- The error of a text that holds no model, where it comes from a file. -/
def errorIn (path : String) : SchemaError → SchemaError
  | .json kind => .fileRead path (SchemaError.invalidModelFormat kind.message).message
  | other => other

/-- The model in a file, with everything filled in that its author left out. -/
def loadModel (path : String) : ExceptT SchemaError Action Model := do
  let text ← readText path
  ExceptT.mk (pure ((Model.load text).mapError (errorIn path)))

/-- Writes a model to a file, whose directory is created where it is missing. -/
def saveModel (model : Model) (path : String) : ExceptT SchemaError Action Unit := do
  let parent := (FilePath.parent? path).getD ""
  if parent ≠ "" then
    if !(← (FileAccess.isPresent parent : Action Bool)) then
      createDirectories parent
  saveModelFile (ModelFile.wrapping model) path

/-! ## Scripts -/

/-- Writes a script to a file, whose directory is created where it is missing. -/
def saveScript (script : Script) (path : String) : ExceptT SchemaError Action Unit := do
  createDirectories ((FilePath.parent? path).getD "")
  writeText path (script.sql ++ "\n")

/-- Generates the script of a model and writes it to a file. -/
def generate (model : Model) (target : Target) (path : String) :
    ExceptT SchemaError Action Script := do
  let script ← ExceptT.mk (pure (Script.generate model target))
  saveScript script path
  return script

/-! ## Settings -/

/-- The settings in a configuration file. -/
def loadSettings (path : String) : ExceptT SchemaError Action Settings := do
  let text ← readText path
  ExceptT.mk (pure (Settings.ofToml text))

/--
The settings in the configuration file that is asked for.  Without one they
come from the configuration file of a directory, if it is there, or are the
standard ones.
-/
def discoverSettings (asked : Option String) (directory : String) :
    ExceptT SchemaError Action Settings := do
  match asked with
  | some path => loadSettings path
  | none =>
      let path := FilePath.within directory Settings.fileName
      if ← (FileAccess.isFile path : Action Bool) then
        loadSettings path
      else
        return Settings.standard

end Storage

end SchemaScript
