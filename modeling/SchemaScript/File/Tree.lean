import SchemaScript.File.Access
import SchemaScript.File.Path
import SchemaScript.Named
import SchemaScript.Text.Lossy

namespace SchemaScript

/-!
# Trees of files

Files and directories as a value.  Paths lead from the root of a tree, step by
step, and every step but the first has to start from a directory.
-/

/-- A file or a directory. -/
inductive FileTree where
  | file (bytes : ByteArray)
  | directory (entries : List (String × FileTree))

namespace FileTree

/-- A directory without anything in it. -/
def empty : FileTree := .directory []

/-- The entries of a directory; a file has none. -/
def entries : FileTree → Named FileTree
  | .file _ => []
  | .directory found => found

/-- What stands at a place, given by the names that lead to it. -/
def find? (tree : FileTree) : List String → Option FileTree
  | [] => some tree
  | name :: names => (Named.lookup name tree.entries).bind fun entry => entry.find? names

/-- Puts something at a place, and directories on the way to it. -/
def place (added : FileTree) : List String → FileTree → FileTree
  | [], _ => added
  | name :: names, tree =>
      let entry := (Named.lookup name tree.entries).getD empty
      .directory (Named.put name (place added names entry) tree.entries)

/-- The place that a step leads to; steps up end at the root. -/
def stepFrom (names : List String) (step : String) : List String :=
  if FilePath.stays step then
    names
  else if step = ".." then
    names.dropLast
  else
    names ++ [step]

/-- Whether a directory stands at a place, so that steps can start from it. -/
def checkDirectory (tree : FileTree) (names : List String) : Except FileFault Unit :=
  match tree.find? names with
  | none => .error .missing
  | some (.file _) => .error .notDirectory
  | some (.directory _) => .ok ()

/-- Whether a name is short enough. -/
def checkName (name : String) : Except FileFault Unit :=
  if FilePath.stepLimit < name.utf8ByteSize then .error .nameTooLong else .ok ()

/-- Whether a step can be taken from a place. -/
def checkStep (tree : FileTree) (names : List String) (step : String) :
    Except FileFault Unit :=
  match tree.checkDirectory names with
  | .error fault => .error fault
  | .ok () => checkName step

/-- The place that steps lead to, at which nothing has to stand yet. -/
def follow (tree : FileTree) (names : List String) : List String → Except FileFault (List String)
  | [] => .ok names
  | step :: steps =>
      match tree.checkStep names step with
      | .ok () => follow tree (stepFrom names step) steps
      | .error fault => .error fault

/-- The steps of a path, unless nothing can stand at it in any tree. -/
def stepsOf (path : String) : Except FileFault (List String) :=
  if path.toList.contains '\x00' then
    .error .nulInPath
  else if path = "" then
    .error .missing
  else if FilePath.lengthLimit < path.utf8ByteSize then
    .error .nameTooLong
  else
    .ok (FilePath.steps path)

/-- What stands at a path. -/
def look (tree : FileTree) (path : String) : Except FileFault FileTree :=
  match stepsOf path with
  | .error fault => .error fault
  | .ok steps =>
      match tree.follow [] steps with
      | .error fault => .error fault
      | .ok names =>
          match tree.find? names with
          | some found => .ok found
          | none => .error .missing

/-- The text of a file. -/
def readText (tree : FileTree) (path : String) : Except FileFault String :=
  match tree.look path with
  | .error fault => .error fault
  | .ok (.directory _) => .error .isDirectory
  | .ok (.file bytes) =>
      match String.fromUTF8? bytes with
      | some text => .ok text
      | none => .error .notText

/-- Whether anything stands at a path. -/
def isPresent (tree : FileTree) (path : String) : Bool :=
  match tree.look path with
  | .ok _ => true
  | .error _ => false

/-- Whether a file stands at a path. -/
def isFile (tree : FileTree) (path : String) : Bool :=
  match tree.look path with
  | .ok (.file _) => true
  | _ => false

/-- Whether a directory stands at a path. -/
def isDirectory (tree : FileTree) (path : String) : Bool :=
  match tree.look path with
  | .ok (.directory _) => true
  | _ => false

/-- Where something new can be put. -/
structure Spot where
  /-- The names that lead to the directory that it lies in. -/
  above : List String
  /-- Its own name; steps that stay or lead up name nothing new. -/
  name? : Option String

/-- The names that lead to a spot. -/
def Spot.names (spot : Spot) : List String :=
  spot.above ++ spot.name?.toList

/-- Whether something of the spot's name can be put there. -/
def Spot.check (spot : Spot) : Except FileFault Unit :=
  checkName (spot.name?.getD "")

/-- Steps without the empty ones at the end, which slashes leave there. -/
def withoutSlashes (steps : List String) : List String :=
  (steps.reverse.dropWhile (· = "")).reverse

/-- The spot that a path leads to, in a directory; its name may still be too long. -/
def spotAt (tree : FileTree) (path : String) : Except FileFault Spot :=
  match stepsOf path with
  | .error fault => .error fault
  | .ok all =>
      let steps := withoutSlashes all
      let last := steps.getLast?.getD ""
      match tree.follow [] steps.dropLast with
      | .error fault => .error fault
      | .ok names =>
          match tree.checkDirectory names with
          | .error fault => .error fault
          | .ok () =>
              .ok {
                above := names
                name? := if FilePath.stays last || last = ".." then none else some last }

/-- Puts a file at a path, unless a directory stands there or is asked for. -/
def writeBytes (tree : FileTree) (path : String) (bytes : ByteArray) :
    Except FileFault FileTree :=
  match tree.spotAt path with
  | .error fault => .error fault
  | .ok spot =>
      if spot.name? = none ∨ path.endsWith "/" then
        .error .isDirectory
      else
        match spot.check, tree.find? spot.names with
        | .error fault, _ => .error fault
        | .ok (), some (.directory _) => .error .isDirectory
        | .ok (), _ => .ok (place (.file bytes) spot.names tree)

/-- Creates a directory where nothing stands yet. -/
def createDirectory (tree : FileTree) (path : String) : Except FileFault FileTree :=
  match tree.spotAt path with
  | .error fault => .error fault
  | .ok spot =>
      match spot.check, tree.find? spot.names with
      | .error fault, _ => .error fault
      | .ok (), some _ => .error .present
      | .ok (), none => .ok (place empty spot.names tree)

/-- Creates a directory unless it is there already. -/
def ensureDirectory (tree : FileTree) (path : String) : Except FileFault FileTree :=
  match tree.createDirectory path with
  | .ok extended => .ok extended
  | .error fault => if tree.isDirectory path then .ok tree else .error fault

/--
Creates the directory that steps lead to, and those it lies in where they are
missing.  What has been created stays.
-/
def createSteps (tree : FileTree) (steps : List String) : FileTree × Except FileFault Unit :=
  if _someStep : steps = [] then
    (tree, .ok ())
  else
    let path := FilePath.ofSteps steps
    match tree.ensureDirectory path with
    | .ok extended => (extended, .ok ())
    | .error .missing =>
        match createSteps tree (FilePath.above steps) with
        | (prepared, .error fault) => (prepared, .error fault)
        | (prepared, .ok ()) =>
            match prepared.ensureDirectory path with
            | .ok extended => (extended, .ok ())
            | .error fault => (prepared, .error fault)
    | .error fault => (tree, .error fault)
termination_by steps.length
decreasing_by exact FilePath.length_above_lt _someStep

/-- Creates the directory of a path, and those it lies in where they are missing. -/
def createDirectories (tree : FileTree) (path : String) : FileTree × Except FileFault Unit :=
  if path = "" then
    (tree, .ok ())
  else
    tree.createSteps (FilePath.steps path)

/-- Puts a file at a path as far as possible, together with the directories on the way. -/
def install (tree : FileTree) (path : String) (bytes : ByteArray) : FileTree :=
  let prepared := (tree.createDirectories ((FilePath.parent? path).getD "")).1
  match prepared.writeBytes path bytes with
  | .ok written => written
  | .error _ => prepared

/-! ## Files of a tree -/

mutual

/-- The files of a tree, with their paths. -/
def files (before : String) : FileTree → List (String × ByteArray)
  | .file bytes => [(before, bytes)]
  | .directory found => filesOf before found

/-- The files of the entries of a directory. -/
def filesOf (before : String) : List (String × FileTree) → List (String × ByteArray)
  | [] => []
  | (name, entry) :: rest => files (FilePath.within before name) entry ++ filesOf before rest

end

/-- The files of a tree in writing, with their paths. -/
def fileTexts (tree : FileTree) : List (String × String) :=
  (files "" tree).map fun (path, bytes) => (path, lossyText bytes)

/-! ## Access -/

/-- A tree of files serves as a place for texts. -/
instance : FileAccess (StateM FileTree) where
  readText path := fun tree => (tree.readText path, tree)
  writeText path text := fun tree =>
    match tree.writeBytes path text.toUTF8 with
    | .ok written => (.ok (), written)
    | .error fault => (.error fault, tree)
  createDirectories path := fun tree =>
    let (extended, result) := tree.createDirectories path
    (result, extended)
  isPresent path := fun tree => (tree.isPresent path, tree)
  isFile path := fun tree => (tree.isFile path, tree)

end FileTree

end SchemaScript
