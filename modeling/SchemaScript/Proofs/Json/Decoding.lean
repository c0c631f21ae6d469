import SchemaScript.Json.Decoding

namespace SchemaScript

/-!
# Decoding values that are held in full

What a program writes as a JSON value it can take apart again without places
and faults: a record finds each of its members, and a tagged value the variant
of its tag.  The lemmas state this for every shape that values are written in.
-/

namespace Reading

variable {α β : Type}

@[simp]
theorem map_done
    (function : α → β)
    (value : α) :
    function <$> Reading.done value = Reading.done (function value) :=
  rfl

@[simp]
theorem seq_done
    (function : α → β)
    (value : α) :
    Reading.done function <*> Reading.done value = Reading.done (function value) :=
  rfl

/-- Items that are all read give the list of what they are read as. -/
theorem all_map_eq_done
    {write : α → β}
    {read : β → Reading α}
    {items : List α}
    (reads : ∀ item ∈ items, read (write item) = .done item) :
    Reading.all read (items.map write) = .done items := by
  induction items with
  | nil =>
      rfl
  | cons item items inductionHypothesis =>
      rw [List.map_cons, Reading.all, reads item List.mem_cons_self,
        inductionHypothesis fun other member => reads other (List.mem_cons_of_mem item member)]
      rfl

end Reading

namespace Json

/-- The documents of items are made one by one. -/
theorem documentItems_eq_map
    (items : List Json) :
    documentItems items = items.map toDocument := by
  induction items with
  | nil =>
      rfl
  | cons item items inductionHypothesis =>
      rw [documentItems, inductionHypothesis, List.map_cons]

/-- The documents of members are made one by one, with their names. -/
theorem documentMembers_eq_map
    (members : List (String × Json)) :
    documentMembers members =
      members.map fun member => (.string Place.ofValue member.1, member.2.toDocument) := by
  induction members with
  | nil =>
      rfl
  | cons member members inductionHypothesis =>
      rw [documentMembers, inductionHypothesis, List.map_cons]

end Json

namespace Document

variable {α : Type}

/-! ## Scalars and lists -/

@[simp]
theorem readText_string
    (text : String) :
    readText (Json.string text).toDocument = .done text :=
  rfl

@[simp]
theorem readBool_bool
    (value : Bool) :
    readBool (Json.bool value).toDocument = .done value :=
  rfl

/-- A whole number within the bounds is read. -/
theorem readInt_int
    {least greatest value : Int}
    (above : least ≤ value)
    (below : value ≤ greatest) :
    readInt least greatest (Json.int value).toDocument = .done value := by
  rw [Json.toDocument, readInt, if_pos ⟨above, below⟩]

/-- A count is read as it was written. -/
@[simp]
theorem readCount_ofNat
    (count : UInt32) :
    readCount (Json.ofNat count.toNat).toDocument = .done count := by
  have above : 0 ≤ Int.ofNat count.toNat := Int.natCast_nonneg _
  have below : Int.ofNat count.toNat ≤ Int.pow 2 32 - 1 :=
    Int.le_sub_one_of_lt (Int.ofNat_lt.mpr count.toNat_lt)
  rw [readCount, Json.ofNat, readInt_int above below, Reading.map_done]
  exact congrArg Reading.done (UInt32.ofNat_toNat)

/-- A whole number of 64 bits is read as it was written. -/
@[simp]
theorem readWhole_int
    (value : Int64) :
    readWhole (Json.int value.toInt).toDocument = .done value := by
  have above : -Int.pow 2 63 ≤ value.toInt := value.le_toInt
  have below : value.toInt ≤ Int.pow 2 63 - 1 := Int.le_sub_one_of_lt value.toInt_lt
  rw [readWhole, readInt_int above below, Reading.map_done, Int64.ofInt_toInt]

/-- A list is read when each of its items is. -/
theorem readList_array
    {write : α → Json}
    {read : Document → Reading α}
    {items : List α}
    (reads : ∀ item ∈ items, read (write item).toDocument = .done item) :
    readList read (Json.array (items.map write)).toDocument = .done items := by
  have readAll : Reading.all read ((items.map write).map Json.toDocument) = .done items := by
    rw [List.map_map]
    exact Reading.all_map_eq_done reads
  rw [Json.toDocument, Json.documentItems_eq_map, readList, readAll]
  rfl

/-- A list of texts is read as it was written. -/
@[simp]
theorem readList_ofTexts
    (texts : List String) :
    readList readText (Json.ofTexts texts).toDocument = .done texts :=
  readList_array fun _ _ => rfl

/-- A text that can be missing is read as it was written. -/
@[simp]
theorem readOption_ofText?
    (text : Option String) :
    readOption readText (Json.ofText? text).toDocument = .done text := by
  cases text <;> rfl

/-! ## Records -/

/-- The parts of an object, when it is decoded as a record. -/
def partsOf (members : List (String × Json)) : Record where
  parts := members.map fun member => (member.1, member.2.toDocument)
  missing := Ending.ofValue.missing

/-- The part of a field is the document of the member of its name. -/
theorem part?_partsOf
    (members : List (String × Json))
    (name : String) :
    (partsOf members).part? name = ((Json.object members).member? name).map Json.toDocument := by
  rw [Record.part?, partsOf, List.find?_map, Json.member?, Option.map_map, Option.map_map]
  rfl

/-- The parts of a record are the members of its object. -/
theorem filterMap_documentMembers
    (members : List (String × Json)) :
    (Json.documentMembers members).filterMap (fun member => member.1.text?.map (·, member.2)) =
      (partsOf members).parts := by
  rw [Json.documentMembers_eq_map, List.filterMap_map, partsOf, ← List.filterMap_eq_map]
  rfl

/-- Members whose names are distinct have no fault in their names. -/
theorem misnamed?_eq_none
    {known seen : List String}
    {members : List (String × Json)}
    (distinct : (members.map Prod.fst).Nodup)
    (fresh : ∀ member ∈ members, member.1 ∉ seen) :
    misnamed? known seen (Json.documentMembers members) = none := by
  induction members generalizing seen with
  | nil =>
      rfl
  | cons member members inductionHypothesis =>
      obtain ⟨name, value⟩ := member
      rw [List.map_cons, List.nodup_cons] at distinct
      have unseen : name ∉ seen := fresh _ List.mem_cons_self
      have laterFresh : ∀ other ∈ members, other.1 ∉ seen := fun other among =>
        fresh other (List.mem_cons_of_mem _ among)
      simp only [Json.documentMembers, misnamed?, text?, List.contains_iff_mem, unseen]
      split
      · refine inductionHypothesis distinct.2 ?_
        intro other among
        have otherName : other.1 ≠ name := by
          rintro rfl
          exact distinct.1 (List.mem_map.mpr ⟨other, among, rfl⟩)
        simp [otherName, laterFresh other among]
      · exact inductionHypothesis distinct.2 laterFresh

section Records

variable
    {names : List String}
    {read : Record → Reading α}
    {members : List (String × Json)}

/-- An object with distinct names is decoded as the record of its parts. -/
theorem readObject_distinct
    (distinct : (members.map Prod.fst).Nodup) :
    readObject names read (Json.object members).toDocument = read (partsOf members) := by
  have wellNamed : misnamed? names [] (Json.documentMembers members) = none :=
    misnamed?_eq_none distinct (by simp)
  rw [Json.toDocument, readObject, wellNamed, filterMap_documentMembers]
  rfl

/-- An object that has each field once is decoded as the record of its parts. -/
theorem readObject_object
    (complete : members.map Prod.fst = names)
    (distinct : names.Nodup) :
    readObject names read (Json.object members).toDocument = read (partsOf members) :=
  readObject_distinct (complete ▸ distinct)

/-- A record is read from an object that names no member twice. -/
theorem readRecord_distinct
    (distinct : (members.map Prod.fst).Nodup) :
    readRecord names read (Json.object members).toDocument = read (partsOf members) :=
  readObject_distinct distinct

/-- A record is read from an object with just its fields. -/
theorem readRecord_object
    (complete : members.map Prod.fst = names)
    (distinct : names.Nodup) :
    readRecord names read (Json.object members).toDocument = read (partsOf members) :=
  readObject_object complete distinct

/-- The content of a variant is read from an object with just its fields. -/
theorem readContentRecord_object
    (complete : members.map Prod.fst = names)
    (distinct : names.Nodup) :
    readContentRecord names read (Json.object members).toDocument = read (partsOf members) :=
  readObject_object complete distinct

end Records

/-! ## Tagged values -/

section Tagged

variable
    {tagName contentName tag : String}
    {variants : Variants α}
    {readVariant : Content → Reading α}

/-- A tag is read by its name. -/
theorem readTag_string
    (variant : variants.read tag = some readVariant) :
    variants.readTag (Json.string tag).toDocument = .done readVariant := by
  simp only [Variants.readTag, readName, Json.toDocument, Document.readVariant, variant]

/-- A value that begins with its tag is read as the variant of the tag. -/
theorem readTagged_object
    {contents : List (String × Json)}
    (apart : tagName ≠ contentName)
    (distinct : ((tagName, Json.string tag) :: contents |>.map Prod.fst).Nodup)
    (variant : variants.read tag = some readVariant) :
    readTagged tagName contentName variants
        (Json.object ((tagName, .string tag) :: contents)).toDocument =
      readVariant
        { part := member? contentName (Json.documentMembers contents)
          missing := Ending.ofValue.missing } := by
  have wellNamed :
      misnamed? [tagName, contentName] []
        (Json.documentMembers ((tagName, .string tag) :: contents)) = none :=
    misnamed?_eq_none distinct (by simp)
  have tagFound :
      member? tagName (Json.documentMembers ((tagName, .string tag) :: contents)) =
        some (Json.string tag).toDocument := by
    simp [Json.documentMembers, member?, text?]
  have contentPassed :
      member? contentName (Json.documentMembers ((tagName, .string tag) :: contents)) =
        member? contentName (Json.documentMembers contents) := by
    simp [Json.documentMembers, member?, text?, apart]
  rw [Json.toDocument, readTagged, wellNamed, tagFound, contentPassed]
  simp only [readTag_string variant, readContent, Place.ofValue, ne_eq, not_true_eq_false,
    false_and, if_false]
  rfl

/-- A variant without a content is read from its tag. -/
theorem readTagged_tagOnly
    (apart : tagName ≠ contentName)
    (variant : variants.read tag = some readVariant) :
    readTagged tagName contentName variants (Json.object [(tagName, .string tag)]).toDocument =
      readVariant { part := none, missing := Ending.ofValue.missing } :=
  readTagged_object apart (by simp) variant

/-- A variant is read from its tag and its content. -/
theorem readTagged_tagWith
    {content : Json}
    (apart : tagName ≠ contentName)
    (variant : variants.read tag = some readVariant) :
    readTagged tagName contentName variants
        (Json.object [(tagName, .string tag), (contentName, content)]).toDocument =
      readVariant { part := some content.toDocument, missing := Ending.ofValue.missing } := by
  rw [readTagged_object apart (by simp [apart]) variant]
  simp [Json.documentMembers, member?, text?]

end Tagged

end Document

end SchemaScript
