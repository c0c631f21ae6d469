import SchemaScript.Json.Value

namespace SchemaScript

/-!
# JSON documents

A document is a JSON text read as far as it can be.  Its parts remember where
they stand, because a reader that decodes a text while it scans it stops at
the earliest fault: a part that does not fit comes before text that is
malformed further on, and the other way round.  Values that are already held
in full are documents without places, and so are parts of a text that are put
off until something further on tells what they are.
-/

/-- The ways in which a text fails to be what was asked for. -/
inductive FaultKind where
  /-- The text is not JSON. -/
  | malformed
  /-- The text is JSON and does not fit what is read from it. -/
  | mismatch
  deriving DecidableEq, Repr

/-- A fault and where it is noticed. -/
structure Fault where
  offset : Nat
  kind : FaultKind
  deriving DecidableEq, Repr

namespace Fault

/--
The earlier of two faults.  At one place a part that does not fit comes before
text that breaks off there, and otherwise the first one counts.
-/
def earlier (first second : Fault) : Fault :=
  if second.offset < first.offset then
    second
  else if second.offset = first.offset ∧ second.kind = .mismatch then
    second
  else
    first

/-- The earlier of two faults, one of which may be missing. -/
def earlier? : Option Fault → Option Fault → Option Fault
  | some first, some second => some (first.earlier second)
  | some first, none => some first
  | none, second => second

end Fault

/-- What a part of a document is decoded from. -/
inductive Supply where
  /-- A text that is decoded while it is scanned. -/
  | text
  /-- A value that is held in full. -/
  | value
  /-- A part of a text that was scanned before it was known what it is. -/
  | putOff
  deriving DecidableEq, Repr

/-- Where a part of a document stands, and what it is decoded from. -/
structure Place where
  offset : Nat
  supply : Supply
  deriving DecidableEq, Repr

namespace Place

/-- The place of every part of a value that is held in full. -/
def ofValue : Place where
  offset := 0
  supply := .value

/-- A part that does not fit. -/
def mismatch (place : Place) : Fault where
  offset := place.offset
  kind := .mismatch

/-- Text that is not JSON. -/
def malformed (place : Place) : Fault where
  offset := place.offset
  kind := .malformed

/--
A part that does not have the outer shape asked for.  A reader that scans
takes what stands there for bad syntax; in what has been scanned before it is
a mismatch.
-/
def misshapen (place : Place) : Fault where
  offset := place.offset
  kind := if place.supply = .text then .malformed else .mismatch

end Place

/-- The closing mark of an array or object, or the place where it breaks off. -/
structure Ending where
  place : Place
  closed : Bool
  deriving DecidableEq, Repr

namespace Ending

/-- The ending of arrays and objects of a value that is held in full. -/
def ofValue : Ending where
  place := Place.ofValue
  closed := true

/-- What is noticed at an ending when something is still missing. -/
def missing (ending : Ending) : Fault :=
  if ending.closed then ending.place.mismatch else ending.place.malformed

/-- The fault of an array or object that breaks off. -/
def brokenOff? (ending : Ending) : Option Fault :=
  if ending.closed then none else some ending.place.malformed

end Ending

/--
A JSON text, or a value held in full, with the places of its parts.  The name
of a member is a document too: it is text, unless the object breaks off there.
-/
inductive Document where
  | null (place : Place)
  | bool (place : Place) (value : Bool)
  | int (place : Place) (value : Int)
  | float (place : Place) (value : Float)
  | string (place : Place) (text : String)
  | array (place : Place) (items : List Document) (ending : Ending)
  | object (place : Place) (members : List (Document × Document)) (ending : Ending)
  /-- An array or object beyond the limit of nesting: it may be passed over, but not opened. -/
  | tooDeep (place : Place) (isArray : Bool)
  /-- Text that has no value: it may be passed over, but not decoded. -/
  | flawed (place : Place)

namespace Document

/-- Where a document begins. -/
def place : Document → Place
  | .null place => place
  | .bool place _ => place
  | .int place _ => place
  | .float place _ => place
  | .string place _ => place
  | .array place _ _ => place
  | .object place _ _ => place
  | .tooDeep place _ => place
  | .flawed place => place

/-- The text of a document that is nothing else. -/
def text? : Document → Option String
  | .string _ text => some text
  | _ => none

/-- The fault of a part that is not of the kind asked for. -/
def unfit : Document → Fault
  | .flawed place => place.malformed
  | other => other.place.mismatch

/-- The fault of a part that is opened before it turns out not to be of the kind asked for. -/
def unfitOpened : Document → Fault
  | .tooDeep place _ => place.malformed
  | other => other.unfit

mutual

/-- How deep arrays and objects are nested. -/
def depth : Document → Nat
  | .array _ items _ => depthItems items + 1
  | .object _ members _ => depthMembers members + 1
  | _ => 0
termination_by structural document => document

/-- The greatest depth of some items. -/
def depthItems : List Document → Nat
  | [] => 0
  | item :: items => max item.depth (depthItems items)
termination_by structural items => items

/-- The greatest depth of some members. -/
def depthMembers : List (Document × Document) → Nat
  | [] => 0
  | (_, value) :: members => max value.depth (depthMembers members)
termination_by structural members => members

end

mutual

/-- The first place at which a document cannot be read in full. -/
def flaw? : Document → Option Fault
  | .flawed place => some place.malformed
  | .tooDeep place _ => some place.malformed
  | .array _ items ending => Fault.earlier? (flawItems? items) ending.brokenOff?
  | .object _ members ending => Fault.earlier? (flawMembers? members) ending.brokenOff?
  | _ => none
termination_by structural document => document

/-- The first flaw of some items. -/
def flawItems? : List Document → Option Fault
  | [] => none
  | item :: items => Fault.earlier? item.flaw? (flawItems? items)
termination_by structural items => items

/-- The first flaw of some members. -/
def flawMembers? : List (Document × Document) → Option Fault
  | [] => none
  | (name, value) :: members =>
      Fault.earlier? (Fault.earlier? name.flaw? value.flaw?) (flawMembers? members)
termination_by structural members => members

end

mutual

/-- The same document, put off until the reader has come to a place. -/
def putOffTo (offset : Nat) : Document → Document
  | .null _ => .null ⟨offset, .putOff⟩
  | .bool _ value => .bool ⟨offset, .putOff⟩ value
  | .int _ value => .int ⟨offset, .putOff⟩ value
  | .float _ value => .float ⟨offset, .putOff⟩ value
  | .string _ text => .string ⟨offset, .putOff⟩ text
  | .array _ items ending =>
      .array ⟨offset, .putOff⟩ (putItemsOffTo offset items) ⟨⟨offset, .putOff⟩, ending.closed⟩
  | .object _ members ending =>
      .object ⟨offset, .putOff⟩ (putMembersOffTo offset members)
        ⟨⟨offset, .putOff⟩, ending.closed⟩
  | .tooDeep _ isArray => .tooDeep ⟨offset, .putOff⟩ isArray
  | .flawed _ => .flawed ⟨offset, .putOff⟩
termination_by structural document => document

/-- Some items, put off until the reader has come to a place. -/
def putItemsOffTo (offset : Nat) : List Document → List Document
  | [] => []
  | item :: items => item.putOffTo offset :: putItemsOffTo offset items
termination_by structural items => items

/-- Some members, put off until the reader has come to a place. -/
def putMembersOffTo (offset : Nat) :
    List (Document × Document) → List (Document × Document)
  | [] => []
  | (name, value) :: members =>
      (name.putOffTo offset, value.putOffTo offset) :: putMembersOffTo offset members
termination_by structural members => members

end

end Document

namespace Json

/-- Puts a member into an object: a member of the same name is replaced where it stands. -/
def putMember (name : String) (value : Json) :
    List (String × Json) → List (String × Json)
  | [] => [(name, value)]
  | (known, held) :: members =>
      if known = name then
        (known, value) :: members
      else
        (known, held) :: putMember name value members

mutual

/-- The value of a document; nothing when a part of it cannot be read. -/
def ofDocument? : Document → Option Json
  | .null _ => some .null
  | .bool _ value => some (.bool value)
  | .int _ value => some (.int value)
  | .float _ value => some (.float value)
  | .string _ text => some (.string text)
  | .array _ items ending =>
      if ending.closed then
        (ofItems? items).map .array
      else
        none
  | .object _ members ending =>
      if ending.closed then
        (ofMembers? [] members).map .object
      else
        none
  | .tooDeep _ _ => none
  | .flawed _ => none
termination_by structural document => document

/-- The values of some items. -/
def ofItems? : List Document → Option (List Json)
  | [] => some []
  | item :: items =>
      match ofDocument? item, ofItems? items with
      | some first, some others => some (first :: others)
      | _, _ => none
termination_by structural items => items

/-- The values of some members after those in `read`: of members of one name the last one counts. -/
def ofMembers? (read : List (String × Json)) :
    List (Document × Document) → Option (List (String × Json))
  | [] => some read
  | (name, value) :: members =>
      match name.text?, ofDocument? value with
      | some text, some held => ofMembers? (putMember text held read) members
      | _, _ => none
termination_by structural members => members

end

mutual

/-- A value as a document that is held in full. -/
def toDocument : Json → Document
  | .null => .null Place.ofValue
  | .bool value => .bool Place.ofValue value
  | .int value => .int Place.ofValue value
  | .float value => .float Place.ofValue value
  | .string text => .string Place.ofValue text
  | .array items => .array Place.ofValue (documentItems items) Ending.ofValue
  | .object members => .object Place.ofValue (documentMembers members) Ending.ofValue
termination_by structural value => value

/-- Items as documents that are held in full. -/
def documentItems : List Json → List Document
  | [] => []
  | item :: items => item.toDocument :: documentItems items
termination_by structural items => items

/-- Members as documents that are held in full. -/
def documentMembers : List (String × Json) → List (Document × Document)
  | [] => []
  | (name, value) :: members =>
      (.string Place.ofValue name, value.toDocument) :: documentMembers members
termination_by structural members => members

end

end Json

end SchemaScript
