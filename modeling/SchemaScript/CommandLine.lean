import SchemaScript.Database

namespace SchemaScript

/-!
# Command lines

What a user asks for in words: one of three commands on a model file, with
options that stand anywhere after the command.  The words are read from the
left, and the first that is out of place decides what is told.  An option that
takes a value may have it in its own word or as the next one; such a value is
checked when the word after it comes up.
-/

/-- What scripts shall be written from and for. -/
structure GenerateOptions where
  model : String
  database : Option Database
  noSafe : Bool
  config : Option String
  output : Option String
  deriving DecidableEq, Repr

/-- What a user asks for. -/
inductive Command where
  /-- Writes the script that creates a model's tables. -/
  | generate (options : GenerateOptions)
  /-- Reports what is wrong with a model. -/
  | validate (model : String)
  /-- Tells what a model holds. -/
  | info (model : String)
  deriving DecidableEq, Repr

/-- A command line that has been understood. -/
structure CommandLine where
  verbose : Bool
  command : Command
  deriving DecidableEq, Repr

namespace CommandLine

/-- Why a command line leads to no command. -/
inductive Stop where
  | missingModel
  | unknownArgument
  /-- A value that does not fit, or an option without its value. -/
  | invalidValue
  | repeatedArgument
  /-- A value for an option that takes none. -/
  | unneededValue
  | unknownCommand
  | missingCommand
  | nothingAsked
  | helpAsked
  | versionAsked
  deriving DecidableEq, Repr

/-! ## Words -/

/-- The names of the commands. -/
inductive CommandName where
  | generate
  | validate
  | info
  deriving DecidableEq, Repr

/-- The command of a name. -/
def CommandName.ofWord? (word : String) : Option CommandName :=
  if word = "generate" then
    some .generate
  else if word = "validate" then
    some .validate
  else if word = "info" then
    some .info
  else
    none

/-- The word that asks for help instead of a command. -/
def helpWord : String := "help"

/-- Whether a word stands where a command can stand. -/
def isCommandWord (word : String) : Bool :=
  (CommandName.ofWord? word).isSome || word = helpWord

/-- What takes a value. -/
inductive Slot where
  | model
  | database
  | config
  | output
  deriving DecidableEq, Repr

/-- What an option stands for. -/
inductive Flag where
  | verbose
  | noSafe
  | value (slot : Slot)
  | help
  | version
  deriving DecidableEq, Repr

/-- Where a word stands: in front of the command, or after it. -/
inductive Level where
  | top
  | within (command : CommandName)
  deriving DecidableEq, Repr

/-- Whether an option may stand somewhere. -/
def Level.admits : Level → Flag → Bool
  | _, .verbose => true
  | _, .help => true
  | level, .version => level = .top
  | level, .noSafe => level = .within .generate
  | level, .value _ => level = .within .generate

/-- The option of a long name. -/
def Flag.ofName? (name : String) : Option Flag :=
  if name = "verbose" then
    some .verbose
  else if name = "no-safe" then
    some .noSafe
  else if name = "database" then
    some (.value .database)
  else if name = "config" then
    some (.value .config)
  else if name = "output" then
    some (.value .output)
  else if name = "help" then
    some .help
  else if name = "version" then
    some .version
  else
    none

/-- The option of a letter. -/
def Flag.ofLetter? : Char → Option Flag
  | 'v' => some .verbose
  | 'd' => some (.value .database)
  | 'c' => some (.value .config)
  | 'o' => some (.value .output)
  | 'h' => some .help
  | 'V' => some .version
  | _ => none

/-- What a word looks like. -/
inductive Word where
  | plain
  /-- Two hyphens, after which all words are plain. -/
  | ending
  /-- Two hyphens and a name, and what follows an equals sign. -/
  | long (name : String) (value : Option String)
  /-- A hyphen and letters. -/
  | short (letters : List Char)

/-- Takes a word apart. -/
def Word.ofText (text : String) : Word :=
  match text.toList with
  | ['-', '-'] => .ending
  | '-' :: '-' :: rest =>
      let name := rest.takeWhile (· ≠ '=')
      .long (String.ofList name)
        (if name.length = rest.length then
          none
        else
          some (String.ofList (rest.drop (name.length + 1))))
  | '-' :: letter :: letters => .short (letter :: letters)
  | _ => .plain

/-- The value that follows a letter in its word; an equals sign may stand in between. -/
def attachedValue? : List Char → Option String
  | [] => none
  | '=' :: value => some (String.ofList value)
  | value => some (String.ofList value)

/-! ## What has been read -/

/-- What has been read of a command and its options. -/
structure Progress where
  verbose : Bool
  noSafe : Bool
  model : Option String
  database : Option Database
  config : Option String
  output : Option String
  /-- What waits for its value, or for its value to be checked. -/
  waiting : Option (Slot × Option String)
  /-- Whether only plain words follow. -/
  ended : Bool

namespace Progress

/-- Nothing has been read. -/
def start : Progress where
  verbose := false
  noSafe := false
  model := none
  database := none
  config := none
  output := none
  waiting := none
  ended := false

/-- Whether a value has been taken for a slot. -/
def isFilled (progress : Progress) : Slot → Bool
  | .model => progress.model.isSome
  | .database => progress.database.isSome
  | .config => progress.config.isSome
  | .output => progress.output.isSome

/-- The database of a value, in lower case. -/
def databaseOf (value : String) : Except Stop Database :=
  match Database.ofKeyword? value with
  | some database => .ok database
  | none => .error .invalidValue

/-- The path of a file or a directory, which cannot be empty. -/
def pathOf (value : String) : Except Stop String :=
  if value = "" then .error .invalidValue else .ok value

/-- Takes a value for a slot, which holds only one. -/
def fill (progress : Progress) (slot : Slot) (value : String) : Except Stop Progress :=
  if progress.isFilled slot then
    .error .repeatedArgument
  else
    match slot with
    | .model => (pathOf value).map fun path => { progress with model := some path }
    | .database => (databaseOf value).map fun found => { progress with database := some found }
    | .config => (pathOf value).map fun path => { progress with config := some path }
    | .output => (pathOf value).map fun path => { progress with output := some path }

/-- Checks what waits. -/
def settle (progress : Progress) : Except Stop Progress :=
  match progress.waiting with
  | none => .ok progress
  | some (_, none) => .error .invalidValue
  | some (slot, some value) => { progress with waiting := none }.fill slot value

/-- Takes an option that has no value. -/
def press (progress : Progress) (flag : Flag) : Except Stop Progress := do
  let settled ← progress.settle
  match flag with
  | .verbose =>
      if settled.verbose then .error .repeatedArgument else .ok { settled with verbose := true }
  | .noSafe =>
      if settled.noSafe then .error .repeatedArgument else .ok { settled with noSafe := true }
  | .help => .error .helpAsked
  | .version => .error .versionAsked
  | .value slot => .ok { settled with waiting := some (slot, none) }

/-- Takes an option with a value in its own word. -/
def pressWith (progress : Progress) (slot : Slot) (value : String) : Except Stop Progress := do
  let settled ← progress.settle
  settled.fill slot value

/-- Takes an option by its long name. -/
def takeLong (level : Level) (name : String) (value : Option String) (progress : Progress) :
    Except Stop Progress :=
  match (Flag.ofName? name).filter level.admits with
  | none => .error .unknownArgument
  | some flag =>
      match flag, value with
      | _, none => progress.press flag
      | .value slot, some value => progress.pressWith slot value
      | _, some _ => .error .unneededValue

/-- Takes the options of letters; after one that takes a value the rest is its value. -/
def takeLetters (level : Level) : List Char → Progress → Except Stop Progress
  | [], progress => .ok progress
  | letter :: letters, progress =>
      match (Flag.ofLetter? letter).filter level.admits with
      | none => .error .unknownArgument
      | some (.value slot) =>
          match attachedValue? letters with
          | none => progress.press (.value slot)
          | some value => progress.pressWith slot value
      | some flag =>
          match progress.press flag with
          | .ok pressed => takeLetters level letters pressed
          | .error stop => .error stop

/-- Takes a plain word as the model's path, of which there is only one. -/
def takeModel (progress : Progress) (word : String) : Except Stop Progress :=
  let known := progress.model.isSome || progress.waiting.any fun (slot, _) => slot = .model
  if known then
    .error .unknownArgument
  else do
    let settled ← progress.settle
    .ok { settled with waiting := some (.model, some word) }

/-- Takes a plain word after the command. -/
def takePlain (progress : Progress) (word : String) : Except Stop Progress :=
  match progress.waiting with
  | some (slot, none) =>
      if progress.ended then
        progress.takeModel word
      else
        .ok { progress with waiting := some (slot, some word) }
  | _ => progress.takeModel word

/-- Takes a word after the command. -/
def takeWord (command : CommandName) (progress : Progress) (word : String) :
    Except Stop Progress :=
  if progress.ended then
    progress.takePlain word
  else
    match Word.ofText word with
    | .plain => progress.takePlain word
    | .ending => .ok { progress with ended := true }
    | .long name value => progress.takeLong (.within command) name value
    | .short letters => progress.takeLetters (.within command) letters

/-- The options of a command that writes a script, for a model. -/
def toOptions (progress : Progress) (model : String) : GenerateOptions where
  model := model
  database := progress.database
  noSafe := progress.noSafe
  config := progress.config
  output := progress.output

/-- The command of what has been read in full. -/
def toCommand (progress : Progress) (model : String) : CommandName → Command
  | .generate => .generate (progress.toOptions model)
  | .validate => .validate model
  | .info => .info model

/-- The command line of what has been read in full, when options stood in front of the command. -/
def finish (command : CommandName) (verbose : Bool) (progress : Progress) :
    Except Stop CommandLine := do
  let settled ← progress.settle
  match settled.model with
  | none => .error .missingModel
  | some model =>
      .ok { verbose := verbose || settled.verbose, command := settled.toCommand model command }

end Progress

/-! ## Command lines from words -/

/-- The words after a command. -/
def parseCommand (verbose : Bool) (command : CommandName) (words : List String) :
    Except Stop CommandLine := do
  let progress ← words.foldlM (Progress.takeWord command) Progress.start
  progress.finish command verbose

/-- The words after the one that asks for help: at most a command, or that word once more. -/
def parseHelp : List String → Stop
  | [] => .helpAsked
  | word :: words => if isCommandWord word ∧ words = [] then .helpAsked else .unknownCommand

/-- The words in front of the command, and the command. -/
def parseFrom (progress : Progress) : List String → Except Stop CommandLine
  | [] => .error (if progress.verbose then .missingCommand else .nothingAsked)
  | word :: words =>
      if progress.ended then
        .error (if isCommandWord word then .unknownArgument else .unknownCommand)
      else if word = helpWord then
        .error (parseHelp words)
      else
        match CommandName.ofWord? word with
        | some command => parseCommand progress.verbose command words
        | none =>
            match Word.ofText word with
            | .plain => .error .unknownCommand
            | .ending => parseFrom { progress with ended := true } words
            | .long name value =>
                match progress.takeLong .top name value with
                | .ok taken => parseFrom taken words
                | .error stop => .error stop
            | .short letters =>
                match progress.takeLetters .top letters with
                | .ok taken => parseFrom taken words
                | .error stop => .error stop

/-- The command line of the words after the program's name. -/
def parse (words : List String) : Except Stop CommandLine :=
  parseFrom Progress.start words

end CommandLine

end SchemaScript
