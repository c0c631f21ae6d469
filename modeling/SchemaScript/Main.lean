import SchemaScript.Command
import Std.Time.Zoned

namespace SchemaScript

/-!
# The program

Runs the command of a command line on the files of the system, on the present
day, and prints what it has to say.
-/

/-- Why the system refuses access to a file. -/
def FileFault.ofError : IO.Error → FileFault
  | .noFileOrDirectory _ _ _ => .missing
  | .alreadyExists _ _ _ => .present
  | .inappropriateType _ 20 _ => .notDirectory
  | .inappropriateType _ 21 _ => .isDirectory
  | .invalidArgument _ 36 _ => .nameTooLong
  | error => .other (toString error)

/-- Runs an action on the file or the directory at a path. -/
def accessFiles {α : Type} (path : String) (action : IO α) : IO (Except FileFault α) := do
  if path.toList.contains '\x00' then
    return .error .nulInPath
  try
    return .ok (← action)
  catch error =>
    return .error (FileFault.ofError error)

/-- The text of a file of the system. -/
def readSystemFile (path : String) : IO (Except FileFault String) := do
  match ← accessFiles path (IO.FS.readBinFile path) with
  | .error fault => return .error fault
  | .ok bytes =>
      match String.fromUTF8? bytes with
      | some text => return .ok text
      | none => return .error .notText

/-- The files of the system serve as a place for texts. -/
instance : FileAccess IO where
  readText := readSystemFile
  writeText path text := accessFiles path (IO.FS.writeBinFile path text.toUTF8)
  createDirectories path := accessFiles path do
    if path ≠ "" then
      IO.FS.createDirAll path
  isPresent path := do
    match ← readSystemFile path with
    | .error .missing => return false
    | .error .notDirectory => return false
    | .error .nameTooLong => return false
    | .error .nulInPath => return false
    | _ => return true
  isFile path := do
    match ← readSystemFile path with
    | .error .notText => return true
    | .error _ => return false
    | .ok _ => return true

/-- The present day in writing. -/
def todayStamp : IO String := do
  let today ← Std.Time.PlainDate.now
  return Date.yearText today.year ++ Date.padded 2 today.month.val.toNat ++
    Date.padded 2 today.day.val.toNat

namespace CommandLine.Stop

/-- How the program is called. -/
def usage : String := textOfLines [
  "Writes scripts that create the tables of a data model, in an order that suits their references",
  "",
  "Commands:",
  "  generate MODEL  Generate the creation script for a model file",
  "  validate MODEL  Validate a model file",
  "  info MODEL      Show a summary of a model file",
  "  help            Print this text",
  "",
  "Options of generate:",
  "  -d, --database DATABASE  Target database: postgres, mysql or sqlite",
  "      --no-safe            Emit plain CREATE statements without IF NOT EXISTS guards",
  "  -c, --config CONFIG      Config file (defaults to ./" ++ Settings.fileName ++
    " when present)",
  "  -o, --output OUTPUT      Directory to write the script into instead of stdout",
  "",
  "Options:",
  "  -v, --verbose  Verbose output",
  "  -h, --help     Print this text",
  "  -V, --version  Print the version"]

/-- The version of the program. -/
def versionText : String := "0.1.0"

/-- What is told about a command line that leads to no command. -/
def message : CommandLine.Stop → String
  | .missingModel => "the path of a model is missing"
  | .unknownArgument => "there is an argument that is not known here"
  | .invalidValue => "an option or the path of the model has no value that fits"
  | .repeatedArgument => "an option is given more than once"
  | .unneededValue => "a value is given to an option that takes none"
  | .unknownCommand => "there is no such command"
  | .missingCommand => "a command is missing"
  | .nothingAsked => usage
  | .helpAsked => usage
  | .versionAsked => versionText

end CommandLine.Stop

/-- Tells why a command line leads to no command. -/
def tellStop (stop : CommandLine.Stop) : IO UInt32 := do
  match stop with
  | .helpAsked =>
      IO.print stop.message
      return 0
  | .versionAsked =>
      IO.println stop.message
      return 0
  | .nothingAsked =>
      IO.eprint stop.message
      return 2
  | other =>
      IO.eprintln ("error: " ++ other.message)
      return 2

/-- Prints what a command had to say. -/
def tellOutcome (outcome : Outcome) : IO UInt32 := do
  IO.print outcome.output
  IO.eprint outcome.notices
  match outcome.failure with
  | none => return 0
  | some failure =>
      let cause := (failure.cause.map fun error => ": " ++ error.message).getD ""
      IO.eprintln ("error: " ++ failure.message ++ cause)
      return 1

end SchemaScript

open SchemaScript in
/-- Runs the command of a command line. -/
def main (words : List String) : IO UInt32 := do
  match CommandLine.parse words with
  | .error stop => tellStop stop
  | .ok line =>
      let stamp ← todayStamp
      let outcome ← (line.command.run stamp : IO Outcome)
      tellOutcome outcome
