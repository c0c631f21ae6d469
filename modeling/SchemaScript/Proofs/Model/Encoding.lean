import SchemaScript.ModelFile
import SchemaScript.Proofs.Json.Decoding

namespace SchemaScript

/-!
# Models as JSON values and back

Every part of a model is written as a JSON value from which it is read back.
All members of a record are written, whether or not they may be left out, and
a tagged value is written with its tag in front.  The depth to which types are
read is that of the value, so that arrays are read at any depth.
-/

open Document

/-! ## Types -/

namespace DataType

section Kinds

variable
    {levels : Nat}
    {kind : String}
    {dataType : DataType}

/-- A kind without parameters is read from its name. -/
theorem readWithin_kindOnly
    (variant : readKind (readWithin levels) kind = some (Content.readNothing dataType)) :
    readWithin (levels + 1) (kindOnly kind).toDocument = .done dataType := by
  rw [readWithin, kindOnly, readTagged_tagOnly (by decide) variant]
  rfl

/-- A kind is read from its name and its parameters. -/
theorem readWithin_kindWith
    {parameters : Json}
    {readParameters : Document → Reading DataType}
    (variant : readKind (readWithin levels) kind = some (Content.read readParameters))
    (reads : readParameters parameters.toDocument = .done dataType) :
    readWithin (levels + 1) (kindWith kind parameters).toDocument = .done dataType := by
  rw [readWithin, kindWith, readTagged_tagWith (by decide) variant]
  exact reads

end Kinds

/-- A type is read back when the levels that may be read exceed the depth of what is written. -/
theorem readWithin_toJson
    {levels : Nat}
    {dataType : DataType}
    (enough : dataType.toJson.toDocument.depth < levels) :
    readWithin levels dataType.toJson.toDocument = .done dataType := by
  obtain ⟨fewer, rfl⟩ := Nat.exists_eq_add_one_of_ne_zero (Nat.ne_zero_of_lt enough)
  induction dataType generalizing fewer with
  | varchar length =>
      refine readWithin_kindWith rfl ?_
      rw [countJson, readCount_ofNat, Reading.map_done]
  | decimal digits places =>
      refine readWithin_kindWith rfl ?_
      rw [readDecimal, readObject_object (by rfl) (by decide)]
      simp [Record.required, Record.part?, partsOf, countJson]
  | array element inductionHypothesis =>
      refine readWithin_kindWith rfl ?_
      have shallower : element.toJson.toDocument.depth < fewer := by
        simp [toJson, kindWith, Json.toDocument, Json.documentMembers, depth,
          depthMembers] at enough
        omega
      obtain ⟨deeper, rfl⟩ := Nat.exists_eq_add_one_of_ne_zero (Nat.ne_zero_of_lt shallower)
      rw [inductionHypothesis deeper shallower, Reading.map_done]
  | reference entity field =>
      refine readWithin_kindWith rfl ?_
      rw [readReference, readObject_object (by rfl) (by decide)]
      simp [Record.required, Record.part?, partsOf]
  | enumeration name variants =>
      refine readWithin_kindWith rfl ?_
      rw [readEnumeration, readObject_object (by rfl) (by decide)]
      simp [Record.required, Record.part?, partsOf]
  | _ =>
      exact readWithin_kindOnly rfl

/-- A data type is read as it was written. -/
theorem read_toJson
    (dataType : DataType) :
    read dataType.toJson.toDocument = .done dataType :=
  readWithin_toJson (Nat.lt_add_one _)

end DataType

/-! ## Fields -/

namespace DefaultValue

/-- A default without a value is read from its type. -/
theorem read_typeOnly
    {type : String}
    {value : DefaultValue}
    (variant : readType type = some (Content.readNothing value)) :
    read (typeOnly type).toDocument = .done value := by
  rw [read, typeOnly, readTagged_tagOnly (by decide) variant]
  rfl

/-- A default is read from its type and its value. -/
theorem read_typeWith
    {type : String}
    {value : DefaultValue}
    {content : Json}
    {readContent : Document → Reading DefaultValue}
    (variant : readType type = some (Content.read readContent))
    (reads : readContent content.toDocument = .done value) :
    read (typeWith type content).toDocument = .done value := by
  rw [read, typeWith, readTagged_tagWith (by decide) variant]
  exact reads

/-- A default is read as it was written. -/
theorem read_toJson
    (value : DefaultValue) :
    read value.toJson.toDocument = .done value := by
  cases value with
  | null => exact read_typeOnly rfl
  | bool value => exact read_typeWith rfl rfl
  | int value =>
      refine read_typeWith rfl ?_
      rw [readWhole_int, Reading.map_done]
  | float value => exact read_typeWith rfl rfl
  | string text => exact read_typeWith rfl rfl
  | insertTime => exact read_typeOnly rfl
  | updateTime => exact read_typeOnly rfl
  | callable name => exact read_typeWith rfl rfl
  | expression sql => exact read_typeWith rfl rfl

/-- A default is never written as null, which stands for no default. -/
theorem readOption_toJson
    (value : Option DefaultValue) :
    readOption read ((value.map toJson).getD .null).toDocument = .done value := by
  cases value with
  | none => rfl
  | some value =>
      have written : ∃ members, value.toJson = .object members := by
        cases value <;> exact ⟨_, rfl⟩
      obtain ⟨members, written⟩ := written
      have reads := read_toJson value
      rw [Option.map_some, Option.getD_some, written] at *
      simp only [Json.toDocument, readOption] at reads ⊢
      rw [reads, Reading.map_done]

end DefaultValue

/-- A field is read as it was written. -/
theorem Field.read_toJson
    (field : Field) :
    read field.toJson.toDocument = .done field := by
  rw [read, toJson, readRecord_object (by rfl) (by decide)]
  simp [Record.required, Record.optional, Record.part?, partsOf, DataType.read_toJson,
    DefaultValue.readOption_toJson]

/-! ## Relationships -/

/-- The type of a relationship is read as it was written. -/
theorem RelationType.read_toJson
    (relationType : RelationType) :
    read relationType.toJson.toDocument = .done relationType := by
  cases relationType with
  | oneToOne => rfl
  | manyToOne => rfl
  | manyToMany junction =>
      have readsJunction :
          readJunction (Json.object [("junction_table", .string junction)]).toDocument =
            .done (.manyToMany junction) := by
        rw [readJunction, readContentRecord_object (by rfl) (by decide)]
        simp [Record.optional, Record.part?, partsOf]
      simp only [toJson, Json.toDocument, Json.documentMembers] at readsJunction ⊢
      simp only [read, readVariant, readsJunction]
      rfl

/-- An action is read as it was written. -/
theorem ReferentialAction.read_toJson
    (action : ReferentialAction) :
    read action.toJson.toDocument = .done action := by
  cases action <;> rfl

/-- A relationship is read as it was written. -/
theorem Relationship.read_toJson
    (relationship : Relationship) :
    read relationship.toJson.toDocument = .done relationship := by
  rw [read, toJson, readRecord_object (by rfl) (by decide)]
  simp [Record.required, Record.optional, Record.part?, partsOf, RelationType.read_toJson,
    ReferentialAction.read_toJson]

/-! ## Entities and models -/

/-- A unique group is read as it was written. -/
theorem UniqueGroup.read_toJson
    (group : UniqueGroup) :
    read group.toJson.toDocument = .done group := by
  rw [read, toJson, readList_ofTexts, Reading.map_done]

/-- An index is read as it was written. -/
theorem Index.read_toJson
    (index : Index) :
    read index.toJson.toDocument = .done index := by
  rw [read, toJson, readRecord_object (by rfl) (by decide)]
  simp [Record.required, Record.optional, Record.part?, partsOf]

/-- An entity is read as it was written. -/
theorem Entity.read_toJson
    (entity : Entity) :
    read entity.toJson.toDocument = .done entity := by
  rw [read, toJson, readRecord_object (by rfl) (by decide)]
  simp [Record.required, Record.optional, Record.part?, partsOf,
    readList_array fun each _ => Field.read_toJson each,
    readList_array fun each _ => Relationship.read_toJson each,
    readList_array fun each _ => UniqueGroup.read_toJson each,
    readList_array fun each _ => Index.read_toJson each]

/-- What is said of a model as a whole is read as it was written. -/
theorem ModelMeta.read_toJson
    (info : ModelMeta) :
    read info.toJson.toDocument = .done info := by
  rw [read, toJson, readRecord_object (by rfl) (by decide)]
  simp [Record.required, Record.optional, Record.part?, partsOf]

/-- A model is read as it was written. -/
theorem Model.read_toJson
    (model : Model) :
    read model.toJson.toDocument = .done model := by
  rw [read, toJson, readRecord_object (by rfl) (by decide)]
  simp [Record.required, Record.optional, Record.part?, partsOf, ModelMeta.read_toJson,
    readList_array fun each _ => Entity.read_toJson each]

/-- A model file is read as it was written. -/
theorem ModelFile.read_toJson
    (file : ModelFile) :
    read file.toJson.toDocument = .done file := by
  rw [read, toJson, readRecord_object (by rfl) (by decide)]
  simp [Record.required, Record.part?, partsOf, DataType.countJson, Model.read_toJson]

/-- The file that a model is saved in holds the model. -/
theorem Model.ofFileJson_wrapping
    (model : Model) :
    ofFileJson (ModelFile.wrapping model).toJson = .ok model := by
  have versioned :
      ((ModelFile.wrapping model).toJson.member? "schema_version").isSome = true := rfl
  have decoded :
      Json.decode ModelFile.read (ModelFile.wrapping model).toJson =
        .ok (ModelFile.wrapping model) := by
    rw [Json.decode, Json.decode?, ModelFile.read_toJson]
    rfl
  rw [ofFileJson, if_pos versioned, decoded]
  rfl

end SchemaScript
