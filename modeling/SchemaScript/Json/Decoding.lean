import SchemaScript.Json.Reader

namespace SchemaScript

/-!
# Decoding documents

A reading is a value or the earliest fault that stands in its way.  Readings
are put together with `<*>`, which keeps the earlier of two faults, so that a
record is read in the order of its fields and yet fails where its text goes
wrong first.

A record is an object or, field by field in the order of declaration, an
array.  A variant is a name, alone or with a content.  A tagged value is an
object with one member for the name of a variant and one for its content.
-/

/-- A value that was read, or the earliest fault. -/
inductive Reading (α : Type) where
  | done (value : α)
  | failed (fault : Fault)

namespace Reading

instance : Functor Reading where
  map function
    | .done value => .done (function value)
    | .failed fault => .failed fault

instance : Pure Reading where
  pure := .done

instance : Seq Reading where
  seq function argument :=
    match function, argument () with
    | .done apply, .done value => .done (apply value)
    | .done _, .failed fault => .failed fault
    | .failed fault, .done _ => .failed fault
    | .failed first, .failed second => .failed (first.earlier second)

/-- The value of a reading. -/
def value? {α : Type} : Reading α → Option α
  | .done value => some value
  | .failed _ => none

/-- Fails with a fault, if there is one, unless the reading fails earlier. -/
def unlessFault {α : Type} (reading : Reading α) : Option Fault → Reading α
  | none => reading
  | some fault =>
      match reading with
      | .done _ => .failed fault
      | .failed first => .failed (first.earlier fault)

/-- Items one after another. -/
def all {α β : Type} (read : α → Reading β) : List α → Reading (List β)
  | [] => .done []
  | item :: items => List.cons <$> read item <*> all read items

end Reading

/-- A record under decoding: the parts found under the names of its fields. -/
structure Record where
  parts : List (String × Document)
  /-- The fault of a field that is needed and not there. -/
  missing : Fault

namespace Record

/-- The part of a field. -/
def part? (record : Record) (name : String) : Option Document :=
  (record.parts.find? fun part => part.1 == name).map Prod.snd

/-- A field that has to be there. -/
def required {α : Type} (record : Record) (name : String) (read : Document → Reading α) :
    Reading α :=
  match record.part? name with
  | some part => read part
  | none => .failed record.missing

/-- A field that has a value of its own when it is not there. -/
def optional {α : Type} (record : Record) (name : String) (absent : α)
    (read : Document → Reading α) : Reading α :=
  match record.part? name with
  | some part => read part
  | none => .done absent

end Record

namespace Document

/-- Text. -/
def readText : Document → Reading String
  | .string _ text => .done text
  | other => .failed other.unfit

/-- A truth value. -/
def readBool : Document → Reading Bool
  | .bool _ value => .done value
  | other => .failed other.unfit

/-- A whole number between bounds, which are included. -/
def readInt (least greatest : Int) : Document → Reading Int
  | .int place value =>
      if least ≤ value ∧ value ≤ greatest then
        .done value
      else
        .failed place.mismatch
  | other => .failed other.unfit

/-- A count of 32 bits. -/
def readCount (document : Document) : Reading UInt32 :=
  (fun count => UInt32.ofNat count.toNat) <$> document.readInt 0 (Int.pow 2 32 - 1)

/-- A whole number of 64 bits. -/
def readWhole (document : Document) : Reading Int64 :=
  Int64.ofInt <$> document.readInt (-Int.pow 2 63) (Int.pow 2 63 - 1)

/-- A floating-point number; whole numbers are taken too. -/
def readFloat : Document → Reading Float
  | .float _ value => .done value
  | .int _ value => .done (Float.ofInt value)
  | other => .failed other.unfit

/-- Null for nothing, or something. -/
def readOption {α : Type} (read : Document → Reading α) : Document → Reading (Option α)
  | .null _ => .done none
  | other => some <$> read other

/-- A list. -/
def readList {α : Type} (read : Document → Reading α) : Document → Reading (List α)
  | .array _ items ending => (Reading.all read items).unlessFault ending.brokenOff?
  | .tooDeep place true => .failed place.malformed
  | other => .failed other.unfit

/-- Null; an object without members passes for it where it was put off. -/
def readNull : Document → Reading Unit
  | .null _ => .done ()
  | .object place [] _ => if place.supply = .putOff then .done () else .failed place.mismatch
  | other => .failed other.unfit

/-- The value of the first member of a name. -/
def member? (name : String) (members : List (Document × Document)) : Option Document :=
  (members.find? fun member => member.1.text? == some name).map Prod.snd

/-- The fault of the first of some names that cannot be read, or that repeats one in `known`. -/
def misnamed? (known seen : List String) : List (Document × Document) → Option Fault
  | [] => none
  | (name, _) :: members =>
      match name.text? with
      | none => some name.place.malformed
      | some text =>
          if known.contains text then
            if seen.contains text then
              some name.place.mismatch
            else
              misnamed? known (text :: seen) members
          else
            misnamed? known seen members

/-- The fault of items beyond the fields that they stand for. -/
def surplus? (fields : Nat) (items : List Document) : Option Fault :=
  (items[fields]?).map fun item => item.place.misshapen

/--
An object with the given fields.  Other members are passed over, and a field
must not be there twice.
-/
def readObject {α : Type} (names : List String) (read : Record → Reading α) :
    Document → Reading α
  | .object _ members ending =>
      let record : Record :=
        { parts := members.filterMap fun member => member.1.text?.map (·, member.2)
          missing := ending.missing }
      (read record).unlessFault
        (Fault.earlier? (misnamed? names [] members) ending.brokenOff?)
  | other => .failed other.unfitOpened

/--
A record with the given fields: an object, or an array that does not go on
after the last field.
-/
def readRecord {α : Type} (names : List String) (read : Record → Reading α) :
    Document → Reading α
  | .array _ items ending =>
      let record : Record := { parts := names.zip items, missing := ending.missing }
      (read record).unlessFault
        (Fault.earlier? (surplus? names.length items) ending.brokenOff?)
  | other => other.readObject names read

/-- A record that is the content of a variant: in a value held in full it is an object. -/
def readContentRecord {α : Type} (names : List String) (read : Record → Reading α)
    (document : Document) : Reading α :=
  if document.place.supply = .value then
    document.readObject names read
  else
    document.readRecord names read

/-- What the only member of a variant must not be followed by. -/
def further? (ending : Ending) : List (Document × Document) → Option Fault
  | [] => ending.brokenOff?
  | (name, _) :: _ => some name.place.misshapen

/--
A variant: its name alone, or an object whose only member has its name.  `read`
is given the content, which is missing when the name stands alone, and the
fault to report for a name that is not known.
-/
def readVariant {α : Type} (read : String → Option Document → Fault → Reading α) :
    Document → Reading α
  | .string place name => read name none place.mismatch
  | .object place [] _ => .failed place.misshapen
  | .object _ ((.string place name, content) :: later) ending =>
      (read name (some content) place.mismatch).unlessFault (further? ending later)
  | .object _ ((other, _) :: _) _ => .failed other.unfit
  | .flawed place => .failed place.malformed
  | other => .failed other.place.misshapen

/-- One of several names; a content, if there is one, is null. -/
def readName {α : Type} (known : String → Option α) : Document → Reading α :=
  readVariant fun name content unknown =>
    match known name with
    | none => .failed unknown
    | some value =>
        match content with
        | none => .done value
        | some held => (fun _ => value) <$> held.readNull

/-- The content of a tagged value. -/
structure Content where
  part : Option Document
  /-- The fault of a content that is needed and not there. -/
  missing : Fault

namespace Content

/-- No content: it may be null. -/
def readNothing {α : Type} (value : α) (content : Content) : Reading α :=
  match content.part with
  | none => .done value
  | some (.null _) => .done value
  | some other => .failed other.unfitOpened

/-- A content that has to be there. -/
def read {α : Type} (read : Document → Reading α) (content : Content) : Reading α :=
  match content.part with
  | some part => read part
  | none => .failed content.missing

end Content

/-- The names of the variants of a tagged value, in order, and how the content of each is read. -/
structure Variants (α : Type) where
  names : List String
  read : String → Option (Content → Reading α)

namespace Variants

/-- The variant that a tag names. -/
def readTag {α : Type} (variants : Variants α) : Document → Reading (Content → Reading α) :=
  readName variants.read

/--
The variant at the front of an array, given by its name.  In what was put off
its number will do.
-/
def readFront {α : Type} (variants : Variants α) (tag : Document) :
    Reading (Content → Reading α) :=
  let name? :=
    match tag with
    | .string _ name => some name
    | .int ⟨_, .putOff⟩ (.ofNat number) => variants.names[number]?
    | _ => none
  match name?.bind variants.read with
  | some readContent => .done readContent
  | none => .failed tag.unfit

end Variants

/-- Reads the content of a variant once the variant is known. -/
def readContent {α : Type} (content : Content) :
    Reading (Content → Reading α) → Reading α
  | .done read => read content
  | .failed fault => .failed fault

/-- Whether the first member of a name comes before any member of another one. -/
def comesFirst (name other : String) : List (Document × Document) → Bool
  | [] => false
  | (known, _) :: members =>
      if known.text? = some name then true
      else if known.text? = some other then false
      else comesFirst name other members

/--
A tagged value: an object with a member for the tag and one for the content,
or an array of the two.  In a text, a content that comes before its tag is put
off until the tag is known.
-/
def readTagged {α : Type} (tagName contentName : String) (variants : Variants α) :
    Document → Reading α
  | .object place members ending =>
      let whole :=
        Fault.earlier? (misnamed? [tagName, contentName] [] members) ending.brokenOff?
      let part := member? contentName members
      match member? tagName members with
      | none =>
          (Reading.failed ending.missing).unlessFault (Fault.earlier? (part.bind flaw?) whole)
      | some tag =>
          if place.supply ≠ .value ∧ comesFirst contentName tagName members then
            let later := part.map (putOffTo tag.place.offset)
            (readContent { part := later, missing := ending.missing }
              (variants.readTag tag)).unlessFault (Fault.earlier? (part.bind flaw?) whole)
          else
            (readContent { part, missing := ending.missing }
              (variants.readTag tag)).unlessFault whole
  | .array _ [] ending => .failed ending.missing
  | .array _ (tag :: contents) ending =>
      (readContent { part := contents.head?, missing := ending.missing }
        (variants.readFront tag)).unlessFault
          (Fault.earlier? (surplus? 1 contents)
            (if contents.isEmpty then some ending.missing else ending.brokenOff?))
  | other => .failed other.unfitOpened

/-- Decodes a text while it is scanned. -/
def readText? {α : Type} (read : Document → Reading α) (text : String) : Reading α :=
  match Json.Reader.scan .standard Json.nestingLimit text with
  | (document, trailing) => (read document).unlessFault trailing

end Document

/-- Decodes a value that is held in full; nothing when it does not fit. -/
def Json.decode? {α : Type} (read : Document → Reading α) (value : Json) : Option α :=
  (read value.toDocument).value?

end SchemaScript
