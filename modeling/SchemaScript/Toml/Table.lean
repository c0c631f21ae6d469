import SchemaScript.Named

namespace SchemaScript

/-!
# TOML tables

Tables are put together from the lines of a file: headers open tables, and
dotted keys open tables on their way.  A table keeps how it came to be, for
that decides whether later lines may add to it; what is written as a value is
complete, and no name is given twice.
-/

/-- How a table came to be. -/
inductive TableOrigin where
  /-- It is written as a value. -/
  | inline
  /-- It has a header of its own. -/
  | header
  /-- It lies on the way to a table with a header. -/
  | path
  /-- It lies on the way to the value of a dotted key. -/
  | dotted
  deriving DecidableEq, Repr

/--
A TOML value.  Of numbers and of dates and times it is only kept that they
stand there, for no setting holds one.
-/
inductive Toml where
  | string (text : String)
  | bool (value : Bool)
  | number
  | moment
  | array (items : List Toml)
  | table (origin : TableOrigin) (members : List (String × Toml))
  /-- Tables with one header for each of them, the latest one last. -/
  | tables (elements : List (List (String × Toml)))

namespace Toml

/-- The members of a table. -/
abbrev Members := Named Toml

/-- A dotted key: the tables on its way, and the name of what it leads to. -/
structure Key where
  path : List String
  name : String

/-- The value of a key. -/
structure Entry where
  key : Key
  value : Toml

/-- A list with its last item changed; nothing without an item. -/
def changeLast? {α : Type} (change : α → Option α) : List α → Option (List α)
  | [] => none
  | [last] => (change last).map fun changed => [changed]
  | item :: items => (changeLast? change items).map (item :: ·)

/--
Whether a dotted key may pass through a table to what it holds.  Only where it
leads further does it pass through tables on the way to a header.
-/
def admitsDotted (origin : TableOrigin) (further : Bool) : Bool :=
  match origin with
  | .dotted => true
  | .path => further
  | .inline => false
  | .header => false

/-- Adds the value of a dotted key to the members of a table. -/
def addAt? (name : String) (value : Toml) : List String → Members → Option Members
  | [], members =>
      match Named.lookup name members with
      | none => some (Named.put name value members)
      | some _ => none
  | step :: path, members =>
      match Named.lookup step members with
      | none =>
          (addAt? name value path []).map fun inner =>
            Named.put step (.table .dotted inner) members
      | some (.table origin inner) =>
          if admitsDotted origin (!path.isEmpty) then
            (addAt? name value path inner).map fun extended =>
              Named.put step (.table origin extended) members
          else
            none
      | some (.tables elements) =>
          if path.isEmpty then
            none
          else
            (changeLast? (addAt? name value path) elements).map fun extended =>
              Named.put step (.tables extended) members
      | some _ => none

/-- Adds entries to the members of a table. -/
def addEntries? (members : Members) (entries : List Entry) : Option Members :=
  entries.foldlM (fun known entry => addAt? entry.key.name entry.value entry.key.path known) members

/-- Changes what stands under a name in the table that a header's path leads to. -/
def changeAt? (name : String) (change : Option Toml → Option Toml) :
    List String → Members → Option Members
  | [], members =>
      (change (Named.lookup name members)).map fun changed => Named.put name changed members
  | step :: path, members =>
      match Named.lookup step members with
      | none =>
          (changeAt? name change path []).map fun inner =>
            Named.put step (.table .path inner) members
      | some (.table .inline _) => none
      | some (.table origin inner) =>
          (changeAt? name change path inner).map fun changed =>
            Named.put step (.table origin changed) members
      | some (.tables elements) =>
          (changeLast? (changeAt? name change path) elements).map fun changed =>
            Named.put step (.tables changed) members
      | some _ => none

/-- A header with the entries below it. -/
structure Section where
  key : Key
  /-- Whether the header opens one of several tables of its name. -/
  repeated : Bool
  entries : List Entry

namespace Section

/-- The table of a section, which may have come up on the way to earlier headers. -/
def open? (opened : Section) : Option Toml → Option Toml
  | none =>
      (addEntries? [] opened.entries).map fun members =>
        if opened.repeated then .tables [members] else .table .header members
  | some (.table .path known) =>
      if opened.repeated then
        none
      else
        (addEntries? known opened.entries).map (.table .header)
  | some (.tables elements) =>
      if opened.repeated then
        (addEntries? [] opened.entries).map fun members => .tables (elements ++ [members])
      else
        none
  | some _ => none

/-- Adds a section to the members of a file. -/
def addTo? (members : Members) (added : Section) : Option Members :=
  changeAt? added.key.name added.open? added.key.path members

end Section

/-- The members of a file: entries above all headers, and sections. -/
def assemble? (top : List Entry) (sections : List Section) : Option Members := do
  let members ← addEntries? [] top
  sections.foldlM Section.addTo? members

end Toml

end SchemaScript
