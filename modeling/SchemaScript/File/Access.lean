namespace SchemaScript

/-!
# Access to files

What commands need of the files around them, and why it may be refused.  Any
place where texts are kept under paths can stand behind it.
-/

/-- Why access to a file is refused. -/
inductive FileFault where
  | missing
  | present
  | notDirectory
  | isDirectory
  | nameTooLong
  /-- The path holds a character that ends paths for the system. -/
  | nulInPath
  /-- The bytes of a file are not a text in UTF-8. -/
  | notText
  /-- Any other reason, in the words of the system. -/
  | other (reason : String)
  deriving DecidableEq, Repr

/-- The words for a refusal, with the number that the system gives it. -/
def FileFault.message : FileFault → String
  | .missing => "No such file or directory (os error 2)"
  | .present => "File exists (os error 17)"
  | .notDirectory => "Not a directory (os error 20)"
  | .isDirectory => "Is a directory (os error 21)"
  | .nameTooLong => "File name too long (os error 36)"
  | .nulInPath => "file name contained an unexpected NUL byte"
  | .notText => "stream did not contain valid UTF-8"
  | .other reason => reason

/-- A place where texts are kept under paths. -/
class FileAccess (Action : Type → Type) where
  readText : String → Action (Except FileFault String)
  /-- Puts a text in the place of what a file held, if there was one. -/
  writeText : String → String → Action (Except FileFault Unit)
  /-- Creates a directory, and those on the way to it, where they are missing. -/
  createDirectories : String → Action (Except FileFault Unit)
  isPresent : String → Action Bool
  isFile : String → Action Bool

end SchemaScript
