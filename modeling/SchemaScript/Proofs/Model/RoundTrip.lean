import SchemaScript.Proofs.Json.Printing
import SchemaScript.Proofs.Model.Encoding

namespace SchemaScript

/-!
# Model files are loaded as they were saved

A model whose floating-point defaults are finite, and read back in the format of
the text, is written as values that a text can hold: its whole numbers have 32 or
64 bits, and its objects have distinct names.  What is loaded from the saved text
is therefore the model, with what its author left out filled in.
-/

/-! ## Finite defaults -/

/-- Whether a default is no floating-point number, or a finite one. -/
def DefaultValue.isFinite : DefaultValue → Bool
  | .float value => value.isFinite
  | _ => true

/-- Whether the field's default, if it has one, is finite. -/
def Field.hasFiniteDefault (field : Field) : Bool :=
  field.defaultValue.all DefaultValue.isFinite

/-- Whether all fields of the entity have finite defaults. -/
def Entity.hasFiniteDefaults (entity : Entity) : Bool :=
  entity.fields.all Field.hasFiniteDefault

/-- Whether all fields of the model have finite defaults. -/
def Model.hasFiniteDefaults (model : Model) : Bool :=
  model.entities.all Entity.hasFiniteDefaults

/-- A format reads back the default of a field if that is a floating-point number. -/
def NumberFormat.ReadsDefault (numbers : NumberFormat) (field : Field) : Prop :=
  ∀ value : Float, field.defaultValue = some (.float value) → numbers.ReadsBack value

/-- A format reads back all floating-point defaults of a model. -/
def NumberFormat.ReadsDefaults (numbers : NumberFormat) (model : Model) : Prop :=
  ∀ entity ∈ model.entities, ∀ field ∈ entity.fields, numbers.ReadsDefault field

/-- A format whose reader undoes its writer reads back the defaults that are finite. -/
theorem NumberFormat.IsInverse.readsDefaults
    {numbers : NumberFormat}
    {model : Model}
    (inverse : numbers.IsInverse)
    (finite : model.hasFiniteDefaults = true) :
    numbers.ReadsDefaults model := by
  intro entity entityMember field fieldMember value held
  have entityFinite : entity.hasFiniteDefaults = true :=
    List.all_eq_true.mp finite entity entityMember
  have fieldFinite : field.hasFiniteDefault = true :=
    List.all_eq_true.mp entityFinite field fieldMember
  rw [Field.hasFiniteDefault, held] at fieldFinite
  exact inverse value fieldFinite

/-! ## Values that a text can hold -/

variable {numbers : NumberFormat}

namespace Json

attribute [simp] Writable.null Writable.bool Writable.string

/-- An object can be held when its names are distinct and its values can be. -/
@[simp]
theorem writable_object_iff
    {members : List (String × Json)} :
    Writable numbers (.object members) ↔
      (members.map Prod.fst).Nodup ∧ ∀ member ∈ members, Writable numbers member.2 := by
  constructor
  · rintro (_ | _)
    exact ⟨‹_›, ‹_›⟩
  · intro both
    exact .object both.1 both.2

/-- A list can be held when what each item is written as can be. -/
theorem writable_map
    {α : Type}
    {write : α → Json}
    {items : List α}
    (each : ∀ item ∈ items, Writable numbers (write item)) :
    Writable numbers (.array (items.map write)) := by
  refine .array fun value member => ?_
  obtain ⟨item, among, rfl⟩ := List.mem_map.mp member
  exact each item among

@[simp]
theorem writable_ofTexts
    (texts : List String) :
    Writable numbers (ofTexts texts) :=
  writable_map fun text _ => .string text

@[simp]
theorem writable_ofText?
    (text : Option String) :
    Writable numbers (ofText? text) := by
  cases text with
  | none => exact .null
  | some text => exact .string text

/-- Whole numbers of 64 bits can be held, with and without a sign. -/
theorem writable_int
    {value : Int}
    (above : -2 ^ 63 ≤ value)
    (below : value < 2 ^ 64) :
    Writable numbers (.int value) := by
  refine .int ?_
  rw [Reader.keepsWhole, Bool.and_eq_true, decide_eq_true_eq, decide_eq_true_eq]
  exact ⟨above, below⟩

@[simp]
theorem writable_countJson
    (count : UInt32) :
    Writable numbers (DataType.countJson count) := by
  have bounded : count.toNat < 2 ^ 32 := count.toNat_lt
  change Writable numbers (.int (count.toNat : Int))
  refine writable_int ?_ ?_ <;> omega

@[simp]
theorem writable_toInt
    (value : Int64) :
    Writable numbers (.int value.toInt) := by
  have below := value.toInt_lt
  exact writable_int value.le_toInt (by omega)

end Json

open Json

@[simp]
theorem DataType.writable_toJson
    (dataType : DataType) :
    Writable numbers dataType.toJson := by
  induction dataType <;> simp [toJson, kindOnly, kindWith, *]

/-- A default can be held when it is read back if it is a floating-point number. -/
theorem DefaultValue.writable_toJson
    {value : DefaultValue}
    (finite : value.isFinite = true)
    (readsBack : ∀ number : Float, value = .float number → numbers.ReadsBack number) :
    Writable numbers value.toJson := by
  cases value with
  | int value =>
      simp [toJson, typeWith]
  | float value =>
      simp [toJson, typeWith, Writable.float finite (readsBack value rfl)]
  | _ =>
      simp [toJson, typeOnly, typeWith]

/-- A field can be held when its default can be. -/
theorem Field.writable_toJson
    {field : Field}
    (finite : field.hasFiniteDefault = true)
    (readsDefault : numbers.ReadsDefault field) :
    Writable numbers field.toJson := by
  have value : Writable numbers ((field.defaultValue.map DefaultValue.toJson).getD .null) := by
    rw [hasFiniteDefault] at finite
    cases held : field.defaultValue with
    | none =>
        exact .null
    | some value =>
        rw [held] at finite
        refine DefaultValue.writable_toJson finite fun number isFloat => ?_
        exact readsDefault number (held.trans (congrArg some isFloat))
  simp [toJson, value]

@[simp]
theorem Relationship.writable_toJson
    (relationship : Relationship) :
    Writable numbers relationship.toJson := by
  have relationType : Writable numbers relationship.relationType.toJson := by
    cases relationship.relationType <;> simp [RelationType.toJson]
  simp [toJson, relationType, ReferentialAction.toJson]

@[simp]
theorem UniqueGroup.writable_toJson
    (group : UniqueGroup) :
    Writable numbers group.toJson :=
  writable_ofTexts group.fields

@[simp]
theorem Index.writable_toJson
    (index : Index) :
    Writable numbers index.toJson := by
  simp [toJson]

/-- An entity can be held when the defaults of its fields can be. -/
theorem Entity.writable_toJson
    {entity : Entity}
    (finite : entity.hasFiniteDefaults = true)
    (readsDefaults : ∀ field ∈ entity.fields, numbers.ReadsDefault field) :
    Writable numbers entity.toJson := by
  have fields : Writable numbers (.array (entity.fields.map Field.toJson)) :=
    writable_map fun field member =>
      Field.writable_toJson (List.all_eq_true.mp finite field member)
        (readsDefaults field member)
  have relationships : Writable numbers (.array (entity.relationships.map Relationship.toJson)) :=
    writable_map fun relationship _ => relationship.writable_toJson
  have uniqueTogether : Writable numbers (.array (entity.uniqueTogether.map UniqueGroup.toJson)) :=
    writable_map fun group _ => group.writable_toJson
  have indexes : Writable numbers (.array (entity.indexes.map Index.toJson)) :=
    writable_map fun index _ => index.writable_toJson
  simp [toJson, fields, relationships, uniqueTogether, indexes]

/-- A model file can be held when the defaults of its model can be. -/
theorem ModelFile.writable_toJson
    {file : ModelFile}
    (finite : file.model.hasFiniteDefaults = true)
    (readsDefaults : numbers.ReadsDefaults file.model) :
    Writable numbers file.toJson := by
  have entities : Writable numbers (.array (file.model.entities.map Entity.toJson)) :=
    writable_map fun entity member =>
      Entity.writable_toJson (List.all_eq_true.mp finite entity member)
        (readsDefaults entity member)
  simp [toJson, Model.toJson, ModelMeta.toJson, entities]

/-! ## Loading what was saved -/

namespace Model

section Saved

variable
    {model : Model}
    (writes : numbers.WritesNumbers)
    (readsDefaults : numbers.ReadsDefaults model)
    (finite : model.hasFiniteDefaults = true)
    (shallow : (ModelFile.wrapping model).toJson.toDocument.depth ≤ nestingLimit)

include writes readsDefaults finite shallow

/-- What is loaded is the model with what its author left out filled in. -/
theorem loadIn_saveIn_eq_normalized :
    loadIn numbers (model.saveIn numbers) = model.normalized := by
  have text :
      Json.ofTextIn numbers (model.saveIn numbers) = .ok (ModelFile.wrapping model).toJson := by
    have writable : Writable numbers (ModelFile.wrapping model).toJson :=
      ModelFile.writable_toJson finite readsDefaults
    rw [Json.ofTextIn, saveIn, ModelFile.writeIn, writable.readIn?_prettyIn writes shallow]
  rw [loadIn, text]
  change (ofFileJson (ModelFile.wrapping model).toJson >>= normalized) = _
  rw [ofFileJson_wrapping]
  rfl

end Saved

/--
A model that has everything filled in is loaded as it was saved, in any format
whose reader undoes its writer.
-/
theorem load_save
    {model : Model}
    (inverse : numbers.IsInverse)
    (finite : model.hasFiniteDefaults = true)
    (shallow : (ModelFile.wrapping model).toJson.toDocument.depth ≤ nestingLimit)
    (normal : model.normalized = .ok model) :
    loadIn numbers (model.saveIn numbers) = .ok model := by
  have readsDefaults := inverse.readsDefaults finite
  rw [loadIn_saveIn_eq_normalized inverse.writesNumbers readsDefaults finite shallow, normal]

end Model

/-- Measurements with defaults of many kinds, nested arrays and both kinds of relationships. -/
def stationModel : Model where
  info := { name := "Stations", description := some "Wind \"and\" rain", version := "2.1" }
  entities := [
    ((((((((Entity.named "Reading").withField
      { Field.named "drift" .float64 with defaultValue := some (.float (-0.1)) }).withField
      { Field.named "scale" .float64 with defaultValue := some (.float 1e23) }).withField
      { Field.named "grid" (.array (.array (.decimal 12 4))) with nullable := true }).withField
      { Field.named "sky" (.enumeration "Sky" ["clear", "over\\cast"]) with
        defaultValue := some (.expression "'clear'") }).withField
      { Field.named "count" .int64 with defaultValue := some (.int (-7)) }).withRelationship
      (.linking "station" "Station" .manyToOne)).withRelationship
      (.linking "observers" "Station" (.manyToMany "observed"))).withUniqueTogether
      ["drift", "scale"],
    ((Entity.named "Station").inNamespace "field").withIndex
      { name := none, fields := ["id"], unique := true }]

/-- The standard format reads back the two numbers that are defaults of measurements. -/
theorem readsDefaults_stationModel :
    NumberFormat.standard.ReadsDefaults stationModel := by
  have drift : NumberFormat.standard.ReadsBack (-0.1) := by
    refine
      ⟨{ negative := true, whole := ['0'], fraction := some ['1'], exponent := none },
        by decide +kernel, ?_, rfl, by decide +kernel⟩
    constructor <;> simp [NumberText.Digits]
  have scale : NumberFormat.standard.ReadsBack 1e23 := by
    refine
      ⟨{ negative := false
         whole := ['1']
         fraction := none
         exponent := some (false, ['2', '3']) },
        by decide +kernel, ?_, rfl, by decide +kernel⟩
    constructor <;> simp [NumberText.Digits]
  have defaults :
      (stationModel.entities.flatMap Entity.fields).map Field.defaultValue =
        [none, some (.float (-0.1)), some (.float 1e23), none, some (.expression "'clear'"),
          some (.int (-7)), none, none] := by
    rfl
  intro entity entityMember field fieldMember value held
  have among :
      some (.float value) ∈ (stationModel.entities.flatMap Entity.fields).map Field.defaultValue :=
    held ▸ List.mem_map_of_mem (List.mem_flatMap_of_mem entityMember fieldMember)
  rw [defaults] at among
  simp only [List.mem_cons, Option.some.injEq, DefaultValue.float.injEq, reduceCtorEq,
    List.not_mem_nil, false_or, or_false] at among
  rcases among with rfl | rfl
  · exact drift
  · exact scale

/--
Measurements are loaded as they were saved in a format that is inverse, and in
the standard one, which reads back their numbers.
-/
theorem load_save_stationModel :
    NumberFormat.nearest.IsInverse ∧
      stationModel.hasFiniteDefaults = true ∧
        (ModelFile.wrapping stationModel).toJson.toDocument.depth ≤ Json.nestingLimit ∧
          stationModel.normalized = .ok stationModel ∧
            Model.loadIn .nearest (stationModel.saveIn .nearest) = .ok stationModel ∧
              Model.load stationModel.save = .ok stationModel := by
  have inverse := NumberFormat.isInverse_nearest
  have finite : stationModel.hasFiniteDefaults = true := by decide +kernel
  have shallow :
      (ModelFile.wrapping stationModel).toJson.toDocument.depth ≤ Json.nestingLimit := by
    decide +kernel
  have normal : stationModel.normalized = .ok stationModel := by rfl
  have standard : Model.load stationModel.save = .ok stationModel :=
    (Model.loadIn_saveIn_eq_normalized NumberFormat.writesNumbers_standard
      readsDefaults_stationModel finite shallow).trans normal
  exact ⟨inverse, finite, shallow, normal, Model.load_save inverse finite shallow normal, standard⟩

end SchemaScript
