import SchemaScript.Proofs.Model.RoundTrip
import SchemaScript.Proofs.Outcome

namespace SchemaScript

/-!
# Versions of model files

A file is decoded in the present layout before its version is looked at.  A
file of a newer version is therefore refused as such only if its model still
has the present layout; otherwise it is refused for its form.  A saved model is
never taken for a file of another version, even where it cannot be loaded
because it holds a number that is not finite or is nested too deeply.
-/

/-- The model of a file whose layout is the present one, whatever version it says it is of. -/
def Json.fileModel? (value : Json) : Option Model :=
  (value.member? "model").bind (Json.decode? Model.read)

/-! ## Errors of what is filled in -/

/-- What stands in the way of a relationship's column breaks a rule of the entity. -/
theorem Entity.isValidation_of_addReferenceField
    {entity : Entity}
    {relationship : Relationship}
    {error : SchemaError}
    (fails : (entity.addReferenceField relationship).2 = .error error) :
    error.isValidation = true := by
  rw [addReferenceField] at fails
  split at fails
  · cases fails
  · split at fails
    · split at fails <;> cases fails
      rfl
    · cases fails

/-- What stands in the way of one of several columns breaks a rule of the entity. -/
theorem Entity.isValidation_of_addReferenceFields
    {entity : Entity}
    {relationships : List Relationship}
    {error : SchemaError}
    (fails : (entity.addReferenceFields relationships).2 = .error error) :
    error.isValidation = true := by
  induction relationships generalizing entity with
  | nil =>
      contradiction
  | cons relationship later inductionHypothesis =>
      rw [addReferenceFields] at fails
      split at fails
      · exact inductionHypothesis fails
      next partly obstacle refused =>
        cases fails
        exact isValidation_of_addReferenceField (congrArg Prod.snd refused)

/-- What stands in the way of completing entities breaks a rule of one of them. -/
theorem Model.isValidation_of_normalizeEntities
    {entities : List Entity}
    {error : SchemaError}
    (fails : (normalizeEntities entities).2 = .error error) :
    error.isValidation = true := by
  induction entities with
  | nil =>
      contradiction
  | cons entity later inductionHypothesis =>
      rw [normalizeEntities] at fails
      split at fails
      · exact inductionHypothesis fails
      next partly obstacle refused =>
        cases fails
        exact Entity.isValidation_of_addReferenceFields (congrArg Prod.snd refused)

/-- A model is filled in unless it breaks a rule of its own. -/
theorem Model.isValidation_of_normalized
    {model : Model}
    {error : SchemaError}
    (fails : model.normalized = .error error) :
    error.isValidation = true := by
  rw [normalized] at fails
  split at fails
  · contradiction
  next partly obstacle refused =>
    cases fails
    exact isValidation_of_normalizeEntities (congrArg Prod.snd refused)

/-! ## Files of any version -/

/-- A text without a value is malformed. -/
theorem Json.ofText_eq
    (text : String) :
    Json.ofText text =
      match Json.read? text with
      | some value => .ok value
      | none => .error (.json .malformed) :=
  rfl

/-- A text is read exactly when it has a value. -/
theorem Json.ofText_eq_ok_iff
    {text : String}
    {value : Json} :
    Json.ofText text = .ok value ↔ Json.read? text = some value := by
  rw [ofText_eq]
  cases Json.read? text <;> simp

/-- A model is loaded from the value of its text. -/
theorem Model.load_eq_bind
    (text : String) :
    load text = (Json.ofText text >>= ofFileJson) >>= normalized :=
  (bind_assoc (Json.ofText text) ofFileJson normalized).symm

/-- A file is decoded as its version and its model, whatever else it holds. -/
theorem ModelFile.value?_read
    {members : List (String × Json)}
    {version : UInt32}
    (distinct : (members.map Prod.fst).Nodup)
    (versioned :
      (Json.object members).member? "schema_version" = some (DataType.countJson version)) :
    Json.decode? ModelFile.read (.object members) =
      (Json.object members).fileModel?.map (ModelFile.mk version) := by
  have counted :
      (Document.partsOf members).required "schema_version" Document.readCount = .done version := by
    rw [Record.required, Document.part?_partsOf, versioned]
    exact Document.readCount_ofNat version
  have modelRead :
      ((Document.partsOf members).required "model" Model.read).value? =
        (Json.object members).fileModel? := by
    rw [Record.required, Document.part?_partsOf, Json.fileModel?]
    cases (Json.object members).member? "model" <;> rfl
  rw [Json.decode?, ModelFile.read, Document.readRecord_distinct distinct, counted, ← modelRead]
  cases (Document.partsOf members).required "model" Model.read <;> rfl

namespace Model

/--
A file with a version has the outcome of its model: the file is refused for its
form if it has none in the present layout, and otherwise for its version if
that is a newer one.
-/
theorem load_of_version
    {text : String}
    {value : Json}
    {version : UInt32}
    (isRead : Json.read? text = some value)
    (versioned : value.member? "schema_version" = some (DataType.countJson version)) :
    load text =
      match value.fileModel? with
      | none => .error (.json .mismatch)
      | some model =>
          if version ≤ ModelFile.presentVersion then
            model.normalized
          else
            .error (.versionMismatch ModelFile.presentVersion version) := by
  obtain ⟨members, rfl⟩ : ∃ members, value = .object members := by
    cases value <;> first | contradiction | exact ⟨_, rfl⟩
  have isVersioned : ((Json.object members).member? "schema_version").isSome = true := by
    rw [versioned, Option.isSome_some]
  have decoded := ModelFile.value?_read (Json.nodup_of_readIn? isRead) versioned
  have isText : Json.ofText text = .ok (.object members) := Json.ofText_eq_ok_iff.mpr isRead
  rw [load_eq_bind, isText, ok_bind]
  simp only [ofFileJson, isVersioned, if_true, Json.decode, decoded]
  cases (Json.object members).fileModel? with
  | none =>
      rfl
  | some model =>
      by_cases known : version ≤ ModelFile.presentVersion <;>
        simp [ModelFile.checkVersion, require, known]
      rfl

/-- What is read from a saved model, if anything is, says that it is of the present version. -/
theorem presentVersion_of_read?_save
    {model : Model}
    {value : Json}
    (isRead : Json.read? model.save = some value) :
    value.member? "schema_version" = some (DataType.countJson ModelFile.presentVersion) := by
  obtain ⟨kept, rfl, same⟩ :=
    Json.exists_of_readIn?_prettyIn_object NumberFormat.writesNumbers_standard (by decide)
      (by simp) isRead
  obtain ⟨known, later, ⟨isName, isVersion⟩, -, rfl⟩ := List.forall₂_cons_right_iff.mp same
  have version : known.2 = DataType.countJson ModelFile.presentVersion :=
    isVersion (Json.writable_countJson _) (show 0 < Json.nestingLimit by decide)
  simp only [Json.member?, List.find?_cons, isName, beq_self_eq_true, Option.map_some, version]

/-- What is saved is never taken for a file of another version. -/
theorem load_save_ne_versionMismatch
    (model : Model)
    (expected found : UInt32) :
    load model.save ≠ .error (.versionMismatch expected found) := by
  intro mismatch
  cases isRead : Json.read? model.save with
  | none =>
      rw [load_eq_bind, Json.ofText_eq, isRead] at mismatch
      cases mismatch
  | some value =>
      rw [load_of_version isRead (presentVersion_of_read?_save isRead)] at mismatch
      split at mismatch
      · cases mismatch
      · rw [if_pos UInt32.le_rfl] at mismatch
        cases isValidation_of_normalized mismatch

/--
A file of a newer version is refused as such exactly when its model has the
present layout, and for its form otherwise.  A saved model is never refused as
of any version.
-/
theorem load_checks_version
    (version : UInt32) :
    (ModelFile.presentVersion < version →
      ∀ (text : String) (value : Json),
        Json.ofText text = .ok value →
          value.member? "schema_version" = some (DataType.countJson version) →
            (load text = .error (.versionMismatch ModelFile.presentVersion version) ↔
              value.fileModel?.isSome) ∧
              (value.fileModel? = none → load text = .error (.json .mismatch))) ∧
      ∀ (model : Model) (expected : UInt32),
        load model.save ≠ .error (.versionMismatch expected version) := by
  constructor
  · intro newer text value isText versioned
    rw [load_of_version (Json.ofText_eq_ok_iff.mp isText) versioned]
    cases value.fileModel? with
    | none =>
        simp
    | some model =>
        simp [UInt32.not_le.mpr newer]
  · intro model expected
    exact load_save_ne_versionMismatch model expected version

/-- A file of the next version in the present layout. -/
def laterFile : String :=
  "\x7b\"schema_version\": 2, \"model\": \x7b\"meta\": \x7b\"name\": \"Teams\"\x7d\x7d\x7d"

/-- The value of the file. -/
def laterValue : Json :=
  .object [
    ("schema_version", .int 2),
    ("model", .object [("meta", .object [("name", .string "Teams")])])]

/-- A file of the next version is refused as such, and saved measurements are not. -/
theorem load_checks_version_laterFile :
    Json.ofText laterFile = .ok laterValue ∧
      laterValue.member? "schema_version" = some (DataType.countJson 2) ∧
      ModelFile.presentVersion < 2 ∧
      load laterFile = .error (.versionMismatch ModelFile.presentVersion 2) ∧
      load stationModel.save ≠ .error (.versionMismatch ModelFile.presentVersion 2) := by
  have isText : Json.ofText laterFile = .ok laterValue := by rfl
  have newer : ModelFile.presentVersion < 2 := by decide
  obtain ⟨refuses, accepts⟩ := load_checks_version 2
  obtain ⟨refused, -⟩ := refuses newer laterFile laterValue isText rfl
  exact ⟨isText, rfl, newer, refused.mpr (by rfl), accepts stationModel _⟩

/-- A file of the next version, which has tables in the place of a model. -/
def rearrangedFile : String :=
  "\x7b\"schema_version\": 2, \"tables\": [\x7b\"title\": \"Team\"\x7d]\x7d"

/-- The value of the file. -/
def rearrangedValue : Json :=
  .object [
    ("schema_version", .int 2),
    ("tables", .array [.object [("title", .string "Team")]])]

/-- The file is of a newer version, and is refused for its form. -/
theorem rearrangedFile_not_recognised :
    Json.ofText rearrangedFile = .ok rearrangedValue ∧
      rearrangedValue.member? "schema_version" = some (DataType.countJson 2) ∧
      ModelFile.presentVersion < 2 ∧
      load rearrangedFile = .error (.json .mismatch) ∧
      load rearrangedFile ≠ .error (.versionMismatch ModelFile.presentVersion 2) := by
  have isRead : Json.read? rearrangedFile = some rearrangedValue := by rfl
  have versioned :
      rearrangedValue.member? "schema_version" = some (DataType.countJson 2) := by rfl
  have refused : load rearrangedFile = .error (.json .mismatch) := load_of_version isRead versioned
  refine ⟨Json.ofText_eq_ok_iff.mpr isRead, versioned, by decide, refused, ?_⟩
  rw [refused]
  intro same
  cases same

end Model

end SchemaScript
