import SchemaScript.Calendar
import SchemaScript.Error
import SchemaScript.Target
import SchemaScript.Toml.Reader

namespace SchemaScript

/-!
# Settings

What a user settles once for all scripts, in a configuration file: the
database, whether scripts pass over what exists already, the directory that
they are written to, and the name of their files.  The command line may
overrule some of it.
-/

/-- The settings for writing scripts. -/
structure Settings where
  database : Database
  safe : Bool
  /-- Where scripts are written to; they are printed without it. -/
  outputDirectory : Option String
  /-- The part of a script's file name after the date. -/
  scriptName : String
  deriving DecidableEq, Repr

namespace Settings

/-- The settings that hold where nothing else is settled. -/
def standard : Settings where
  database := Target.standard.database
  safe := Target.standard.safe
  outputDirectory := none
  scriptName := "create_schema"

/-- The configuration file of a directory. -/
def fileName : String := "schemagen.toml"

/-! ## Reading settings -/

/-- The text of a string. -/
def textOf? : Toml → Option String
  | .string text => some text
  | _ => none

/-- A switch. -/
def switchOf? : Toml → Option Bool
  | .bool value => some value
  | _ => none

/-- Whether a value is an array or a table without anything in it. -/
def isEmpty : Toml → Bool
  | .array items => items.isEmpty
  | .table _ members => members.isEmpty
  | _ => false

/-- A database: its name, or a table with its name as the only key and nothing below it. -/
def databaseOf? : Toml → Option Database
  | .string name => Database.ofKeyword? name
  | .table _ [(name, content)] => if isEmpty content then Database.ofKeyword? name else none
  | _ => none

/-- A setting, with the standard where a file does not mention it. -/
def setting {α : Type} (name : String) (read? : Toml → Option α) (standard : α)
    (members : Toml.Members) : Except SchemaError α :=
  match Named.lookup name members with
  | none => .ok standard
  | some value =>
      match read? value with
      | some result => .ok result
      | none => .error (.invalidConfiguration ("'" ++ name ++ "' has no value of its kind"))

/-- The settings in a configuration file's text.  Keys of other names are passed over. -/
def ofToml (text : String) : Except SchemaError Settings :=
  match Toml.read? text with
  | none => .error (.invalidConfiguration "the text is not well-formed")
  | some members => do
      let database ← setting "database" databaseOf? standard.database members
      let safe ← setting "safe" switchOf? standard.safe members
      let outputDirectory ←
        setting "output_dir" (fun value => (textOf? value).map some) standard.outputDirectory members
      let scriptName ← setting "file_prefix" textOf? standard.scriptName members
      return { database, safe, outputDirectory, scriptName }

/-! ## Using settings -/

/-- What the command line says about settings. -/
structure Overrides where
  database : Option Database
  /-- Whether scripts shall not pass over what exists already. -/
  noSafe : Bool
  outputDirectory : Option String
  deriving DecidableEq, Repr

/-- Settings as far as the command line does not overrule them. -/
def override (settings : Settings) (overrides : Overrides) : Settings :=
  { settings with
    database := overrides.database.getD settings.database
    safe := settings.safe && !overrides.noSafe
    outputDirectory := overrides.outputDirectory.or settings.outputDirectory }

/-- What scripts are written for. -/
def target (settings : Settings) : Target where
  database := settings.database
  safe := settings.safe

/-- The name of a script's file, which begins with a date in writing and a number. -/
def scriptFile (settings : Settings) (stamp : String) : String :=
  stamp ++ "000001_" ++ settings.scriptName ++ ".sql"

end Settings

end SchemaScript
