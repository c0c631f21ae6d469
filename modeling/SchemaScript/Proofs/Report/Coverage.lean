import SchemaScript.ModelFile
import SchemaScript.Proofs.Plan
import SchemaScript.Proofs.Report.Acceptance
import SchemaScript.Proofs.Report.Consistency

/-!
# What reports leave out

Reports and the checks of a model are two ways to look at the same rules, one
to list all that is wrong and one to stop at the first.  The checks refuse
whatever a report finds wrong.  The other way round seven rules are missing: a
model can break one of them, be reported as free of errors, and be refused all
the same.
-/

namespace SchemaScript

/-! ## Reported and unreported rules -/

/-- The rules that the checks of a model ask for and no report looks at. -/
structure Model.KeepsUnreported (model : Model) : Prop where
  nameShort : model.info.name.utf8ByteSize ≤ 100
  columnNamesGiven :
    ∀ entity ∈ model.entities, ∀ field ∈ entity.fields, field.columnName ≠ ""
  keysNotNull :
    ∀ entity ∈ model.entities, ∀ field ∈ entity.fields,
      field.isPrimaryKey = true → field.nullable = false
  lengthsPositive :
    ∀ entity ∈ model.entities, ∀ field ∈ entity.fields, field.dataType ≠ .varchar 0
  indexNamesGiven :
    ∀ entity ∈ model.entities, ∀ index ∈ entity.indexes, index.name ≠ some ""
  referencesFound :
    ∀ entity ∈ model.entities, ∀ field ∈ entity.fields, model.checkReference field = .ok ()
  joinColumnsDiffer :
    ∀ owner ∈ model.entities, ∀ relationship ∈ owner.relationships,
      Model.JoinColumnsDiffer owner relationship

namespace Model

variable {model : Model}

/-- A well-formed model keeps the rules that no report is about. -/
theorem WellFormed.keepsUnreported
    (wellFormed : model.WellFormed) :
    model.KeepsUnreported where
  nameShort := (ModelMeta.validate_eq_ok_iff.mp wellFormed.info).2
  columnNamesGiven := fun _ entityMember field member =>
    ((wellFormed.entityFormed entityMember).fieldsValid field member).columnNameGiven
  keysNotNull := fun _ entityMember field member =>
    ((wellFormed.entityFormed entityMember).fieldsValid field member).keyNotNull
  lengthsPositive := fun _ entityMember field member =>
    ((wellFormed.entityFormed entityMember).fieldsValid field member).lengthPositive
  indexNamesGiven := fun _ entityMember index member =>
    (Index.validate_eq_ok_iff.mp
      ((wellFormed.entityFormed entityMember).indexesValid index member)).2
  referencesFound := wellFormed.referencesFound
  joinColumnsDiffer := wellFormed.joinColumnsDiffer

/-- The entities of a model that keeps all rules are well-formed. -/
theorem entityFormed_of_keeps
    (reported : model.KeepsReported)
    (unreported : model.KeepsUnreported)
    {entity : Entity}
    (member : entity ∈ model.entities) :
    entity.WellFormed := by
  have own := reported.entitiesKeep entity member
  exact {
    nameGiven := own.nameGiven
    nameIdentifier := own.nameIdentifier
    tableNameGiven := own.tableNameGiven
    onePrimaryKey := own.onePrimaryKey
    fieldNamesDistinct := own.fieldNamesDistinct
    columnNamesDistinct := own.columnNamesDistinct
    fieldsValid := by
      intro field fieldMember
      obtain ⟨nameGiven, nameIdentifier, generatedIsKey, generatedHasNoDefault⟩ :=
        own.fieldsKeepRules field fieldMember
      exact {
        nameGiven
        nameIdentifier
        columnNameGiven := unreported.columnNamesGiven entity member field fieldMember
        generatedIsKey
        generatedHasNoDefault
        keyNotNull := unreported.keysNotNull entity member field fieldMember
        lengthPositive := unreported.lengthsPositive entity member field fieldMember }
    relationshipsValid := fun relationship linked =>
      (reported.linksKept entity member relationship linked).1
    ownersFound := fun relationship linked =>
      (reported.linksKept entity member relationship linked).2.1
    groupsValid := fun group listed =>
      UniqueGroup.validate_eq_ok_iff.mpr (own.groupsListed group listed).1
    groupsCovered := fun group listed => (own.groupsListed group listed).2
    indexesValid := fun index listed =>
      Index.validate_eq_ok_iff.mpr
        ⟨(own.indexesListed index listed).1,
          unreported.indexNamesGiven entity member index listed⟩
    indexesCovered := fun index listed => (own.indexesListed index listed).2 }

/-- A model is well-formed exactly when it keeps the reported and the unreported rules. -/
theorem wellFormed_iff_keeps :
    model.WellFormed ↔ model.KeepsReported ∧ model.KeepsUnreported := by
  constructor
  · intro wellFormed
    exact ⟨wellFormed.keepsReported, wellFormed.keepsUnreported⟩
  · rintro ⟨reported, unreported⟩
    exact {
      info := ModelMeta.validate_eq_ok_iff.mpr ⟨reported.nameGiven, unreported.nameShort⟩
      entitiesValid := fun _ member =>
        Entity.validate_eq_ok_iff.mpr (entityFormed_of_keeps reported unreported member)
      namesDistinct := reported.namesDistinct
      tablesDistinct := reported.tablesDistinct
      referencesFound := unreported.referencesFound
      linksFound := fun owner member relationship linked =>
        (reported.linksKept owner member relationship linked).2.2
      joinColumnsDiffer := unreported.joinColumnsDiffer
      joinsDistinct := reported.joinsDistinct }

end Model

/--
A model passes its checks exactly when its report lists no error and it keeps
the seven rules that no report looks at.
-/
theorem validate_iff_no_errors
    {model : Model} :
    model.validate = .ok () ↔
      (Report.ofModel model).hasErrors = false ∧ model.KeepsUnreported := by
  rw [Model.validate_eq_ok_iff, Model.wellFormed_iff_keeps, ← Model.report_valid_iff,
    Report.ofModel_consistent.hasErrors_eq, Bool.not_eq_false']

/-- A model file in which the key of books may be null. -/
def nullableKeyText : String :=
  "\x7b\"meta\": \x7b\"name\": \"Shelf\"\x7d, \"entities\": [\x7b\"name\": \"Book\", " ++
    "\"fields\": [\x7b\"name\": \"id\", \"data_type\": \x7b\"kind\": \"Int32\"\x7d, " ++
    "\"is_primary_key\": true, \"nullable\": true\x7d]\x7d]\x7d"

/-- The report on a model file lists no error, and the checks refuse its model. -/
theorem nullableKeyText_not_valid :
    ∃ model, Model.load nullableKeyText = .ok model ∧
      (Report.ofModel model).hasErrors = false ∧ model.validate ≠ .ok () := by
  have outcome :
      (do
        let model ← Model.load nullableKeyText
        .ok ((Report.ofModel model).hasErrors, model.validate)) =
      (.ok
        (false,
          .error
            (.invalidField "Book" "id" "Validation error: A primary key cannot be nullable")) :
        Except SchemaError (Bool × Except SchemaError Unit)) := by
    decide +kernel
  obtain ⟨model, loaded, found⟩ := bind_eq_ok_iff.mp outcome
  simp only [Except.ok.injEq, Prod.mk.injEq] at found
  refine ⟨model, loaded, found.1, ?_⟩
  rw [found.2]
  exact nofun

/-! ## Reports of valid models -/

/-- What is left to plan once a model has been checked and reported on. -/
def Plan.ofChecked (model : Model) (database : Database) : Except SchemaError Plan := do
  let (namespaces, units) ← unitsOf model database [] model.entities
  let ordered ← TableUnit.order units
  .ok {
    namespaces
    units := ordered
    warnings := (Report.ofModel model).warnings.map ReportWarning.display }

/--
The report of a model that passes its checks is valid, so that planning never
fails with it: it is the checks and what comes after the report.
-/
theorem report_valid_of_validate
    {model : Model}
    (valid : model.validate = .ok ()) :
    (Report.ofModel model).valid = true ∧
      (Report.ofModel model).toResult = .ok () ∧
      ∀ database, Plan.ofModel model database = Plan.ofChecked model database := by
  have reportValid : (Report.ofModel model).valid = true :=
    (Model.validate_eq_ok_iff.mp valid).report_valid
  have accepted : (Report.ofModel model).toResult = .ok () :=
    require_eq_ok_iff.mpr reportValid
  refine ⟨reportValid, accepted, ?_⟩
  intro database
  rw [Plan.ofModel, valid, ok_bind]
  simp only [accepted, ok_bind]
  rfl

/-- Nothing is reported of a league, and planning it checks nothing else. -/
theorem report_valid_of_validate_leagueModel :
    leagueModel.validate = .ok () ∧
      (Report.ofModel leagueModel).valid = true ∧
      (Report.ofModel leagueModel).toResult = .ok () ∧
      ∀ database, Plan.ofModel leagueModel database = Plan.ofChecked leagueModel database :=
  ⟨leagueModel_valid, report_valid_of_validate leagueModel_valid⟩

end SchemaScript
