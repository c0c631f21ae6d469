import SchemaScript.Proofs.Report.Warnings
import SchemaScript.Proofs.TableUnit.Defaults
import SchemaScript.Proofs.TableUnit.Failure

/-!
# Defaults that are pointed out

A report points out the fields whose default it takes to be left out of the
column: those that the application computes or keeps, and those of types that
do not allow one.  Where a default cannot be written it is left out as well.
This differs for one kind of value, since numbers that are not finite have no
literal and are not pointed out.
-/

namespace SchemaScript

open Sql TableUnit

/-! ## Paths -/

/-- A point stands in no identifier. -/
theorem Text.point_not_mem_of_isIdentifier
    {name : String}
    (isIdentifier : Text.isIdentifier name = true) :
    '.' ∉ name.toList := by
  have notFirst : Text.beginsIdentifier '.' = false := by
    decide +kernel
  have notLater : Text.continuesIdentifier '.' = false := by
    decide +kernel
  rw [Text.isIdentifier] at isIdentifier
  cases characters : name.toList with
  | nil =>
      exact List.not_mem_nil
  | cons first rest =>
      simp only [characters, Bool.and_eq_true, List.all_eq_true] at isIdentifier
      obtain ⟨begins, continues⟩ := isIdentifier
      rintro (_ | ⟨_, later⟩)
      · rw [notFirst] at begins
        cases begins
      · have goesOn := continues '.' later
        rw [notLater] at goesOn
        cases goesOn

/-- The path of a field tells the names of the entity and of the field. -/
theorem Rule.fieldPath_inj
    {entity other : Entity}
    {field otherField : Field}
    (isIdentifier : Text.isIdentifier entity.name = true)
    (otherIsIdentifier : Text.isIdentifier other.name = true)
    (same : Rule.fieldPath entity field = Rule.fieldPath other otherField) :
    entity.name = other.name ∧ field.name = otherField.name := by
  have characters :
      entity.name.toList ++ '.' :: ("fields.".toList ++ field.name.toList) =
        other.name.toList ++ '.' :: ("fields.".toList ++ otherField.name.toList) := by
    have sameCharacters := congrArg String.toList same
    simpa [Rule.fieldPath, Rule.entityPath] using sameCharacters
  have beforePoint
      {name : String}
      (plain : '.' ∉ name.toList)
      (rest : List Char) :
      (name.toList ++ '.' :: rest).takeWhile (· != '.') = name.toList := by
    have noPoint : ∀ character ∈ name.toList, (character != '.') = true := by
      intro character listed
      exact bne_iff_ne.mpr fun isPoint => plain (isPoint ▸ listed)
    rw [List.takeWhile_append_of_pos noPoint, List.takeWhile_cons_of_neg (by decide),
      List.append_nil]
  have sameEntity : entity.name.toList = other.name.toList := by
    rw [← beforePoint (Text.point_not_mem_of_isIdentifier isIdentifier), characters,
      beforePoint (Text.point_not_mem_of_isIdentifier otherIsIdentifier)]
  rw [sameEntity] at characters
  have sameField := List.append_cancel_left (List.tail_eq_of_cons_eq
    (List.append_cancel_left characters))
  exact ⟨String.toList_injective sameEntity, String.toList_injective sameField⟩

/-! ## Warnings -/

/-- The rule on fields warns that the default of a field is not written. -/
def PointedOut (model : Model) (entity : Entity) (field : Field) : Prop :=
  ∃ warning ∈ (Rule.entityFields.check model).warnings,
    warning.code = .defaultNotRendered ∧ warning.path = some (Rule.fieldPath entity field)

variable {model : Model} {entity : Entity} {field : Field}

/-- A warning belongs to the field whose path it shows. -/
theorem pointedOut_iff
    (wellFormed : model.WellFormed)
    (member : entity ∈ model.entities)
    (fieldMember : field ∈ entity.fields) :
    PointedOut model entity field ↔ (Rule.unrenderedReason? field).isSome = true := by
  rw [PointedOut, Rule.entityFields_warnings wellFormed]
  simp only [List.mem_flatMap, List.mem_filterMap]
  constructor
  · rintro ⟨warning, ⟨other, otherMember, otherField, otherFieldMember, warned⟩, _, path⟩
    obtain ⟨reason, found, rfl⟩ := Option.map_eq_some_iff.mp warned
    have otherFormed := wellFormed.entityFormed otherMember
    obtain ⟨sameName, sameFieldName⟩ :=
      Rule.fieldPath_inj otherFormed.nameIdentifier
        (wellFormed.entityFormed member).nameIdentifier (Option.some.inj path)
    have sameEntity : other = entity :=
      wellFormed.eq_of_name_eq otherMember member sameName
    subst sameEntity
    have sameField : otherField = field :=
      otherFormed.eq_of_name_eq otherFieldMember fieldMember sameFieldName
    subst sameField
    rw [found]
    rfl
  · intro unrendered
    obtain ⟨reason, found⟩ := Option.isSome_iff_exists.mp unrendered
    have warned : Rule.defaultWarning? entity field = some _ :=
      Option.map_eq_some_iff.mpr ⟨reason, found, rfl⟩
    exact ⟨_, ⟨entity, member, field, fieldMember, warned⟩, rfl, rfl⟩

/-! ## Warnings and columns -/

/-- Whether a default is kept or computed by the application. -/
def DefaultValue.isApplied : DefaultValue → Bool
  | .updateTime => true
  | .callable _ => true
  | _ => false

/-- Whether a default is a number that is not finite. -/
def DefaultValue.isNotFinite : DefaultValue → Bool
  | .float number => !number.isFinite
  | _ => false

/-- A default can be written when it is neither applied elsewhere nor a number without digits. -/
theorem DefaultValue.isWritable_eq
    {value : DefaultValue} :
    value.isWritable = (!value.isApplied && !value.isNotFinite) := by
  cases value <;> simp [isWritable, isApplied, isNotFinite]

/-- The application keeps or computes no default that is a number. -/
theorem DefaultValue.isNotFinite_eq_false_of_isApplied
    {value : DefaultValue}
    (applied : value.isApplied = true) :
    value.isNotFinite = false := by
  cases value <;> first | rfl | cases applied

/-- The rule gives a reason for values of the application, and for types without defaults. -/
theorem Rule.unrenderedReason?_isSome
    {value : DefaultValue}
    (given : field.defaultValue = some value) :
    (Rule.unrenderedReason? field).isSome =
      (value.isApplied || !field.dataType.inlinesDefault) := by
  rw [Rule.unrenderedReason?, given]
  cases value <;> cases field.dataType.inlinesDefault <;> rfl

/-- A column is made as its definition is. -/
theorem TableUnit.column_eq_ok_iff
    {database : Database}
    {queue : CommentQueue}
    {column : Column} :
    (TableUnit.column model database entity queue field).2 = .ok column ↔
      ∃ body, columnBody model database field = .ok body ∧
        column = {
          name := field.columnName
          body
          reference := none
          comment :=
            (queue.addColumn? database field.columnName (describe? entity field)).2 } := by
  simp only [TableUnit.column]
  cases columnBody model database field <;> simp [eq_comm]

/-- Whatever the default of a field is, its column is made if it has a type. -/
theorem TableUnit.exists_column_iff
    {database : Database}
    {queue : CommentQueue} :
    (∃ column, (TableUnit.column model database entity queue field).2 = .ok column) ↔
      ∃ name, model.columnType database field = .ok name := by
  constructor
  · rintro ⟨column, made⟩
    obtain ⟨body, found, _⟩ := column_eq_ok_iff.mp made
    exact exists_columnType_of_columnBody found
  · rintro ⟨name, typed⟩
    have neverFails : FailsOnly (fun _ => False) (columnBody model database field) := by
      refine columnBody_fails.mono ?_
      intro error untyped
      rw [typed] at untyped
      cases untyped
    obtain ⟨body, found⟩ := neverFails.exists_ok
    exact ⟨_, column_eq_ok_iff.mpr ⟨body, found, rfl⟩⟩

/-- What a report says of a field's default, beside what the field's column shows. -/
structure DefaultFate (model : Model) (entity : Entity) (field : Field) (value : DefaultValue) :
    Prop where
  pointedOut_iff :
    PointedOut model entity field ↔
      value.isApplied = true ∨ field.dataType.inlinesDefault = false
  /-- Whatever the default is, the column is made if it has a type. -/
  made_iff :
    ∀ database queue,
      (∃ column, (TableUnit.column model database entity queue field).2 = .ok column) ↔
        ∃ name, model.columnType database field = .ok name
  shows_iff :
    ∀ database queue column,
      (TableUnit.column model database entity queue field).2 = .ok column →
        (column.body.ShowsDefault ↔
          field.dataType.inlinesDefault = true ∧ value.isWritable = true)
  /-- The report is wrong about numbers that are not finite where defaults are allowed. -/
  truthful_iff :
    ∀ database queue column,
      (TableUnit.column model database entity queue field).2 = .ok column →
        ((PointedOut model entity field ↔ ¬ column.body.ShowsDefault) ↔
          ¬ (value.isNotFinite = true ∧ field.dataType.inlinesDefault = true))

/--
On a model that passes its checks a report points out a default exactly when
the application keeps or computes it or the type does not allow it.  The
column leaves it out in these cases, and when it is a number that is not
finite.
-/
theorem unrenderedDefaults_pointedOut
    (valid : model.validate = .ok ())
    (member : entity ∈ model.entities)
    (fieldMember : field ∈ entity.fields)
    {value : DefaultValue}
    (given : field.defaultValue = some value) :
    DefaultFate model entity field value := by
  have wellFormed := Model.validate_eq_ok_iff.mp valid
  have fieldFormed := (wellFormed.entityFormed member).fieldsValid field fieldMember
  have warned :
      PointedOut model entity field ↔
        value.isApplied = true ∨ field.dataType.inlinesDefault = false := by
    rw [pointedOut_iff wellFormed member fieldMember, Rule.unrenderedReason?_isSome given]
    simp
  have shows
      (database : Database)
      (queue : CommentQueue)
      (column : Column)
      (made : (TableUnit.column model database entity queue field).2 = .ok column) :
      column.body.ShowsDefault ↔
        field.dataType.inlinesDefault = true ∧ value.isWritable = true := by
    obtain ⟨body, found, rfl⟩ := column_eq_ok_iff.mp made
    rw [columnBody_showsDefault_iff fieldFormed found, Field.writesDefault, given]
    simp
  refine {
    pointedOut_iff := warned
    made_iff := fun _ _ => exists_column_iff
    shows_iff := shows
    truthful_iff := ?_ }
  intro database queue column made
  rw [warned, shows database queue column made, DefaultValue.isWritable_eq]
  cases applied : value.isApplied with
  | false =>
      cases value.isNotFinite <;> cases field.dataType.inlinesDefault <;> decide
  | true =>
      rw [DefaultValue.isNotFinite_eq_false_of_isApplied applied]
      cases field.dataType.inlinesDefault <;> decide

/-- A reading is not a number until it is taken. -/
def readingField : Field :=
  { Field.named "reading" .float64 with defaultValue := some (.float (0.0 / 0.0)) }

/-- Gauges, each with a reading. -/
def gauge : Entity :=
  (Entity.named "Gauge").withField readingField

/-- A model of gauges. -/
def gaugeModel : Model where
  info := .named "Gauges"
  entities := [gauge]

theorem gaugeModel_valid :
    gaugeModel.validate = .ok () := by
  decide +kernel

theorem readingField_mem :
    readingField ∈ gauge.fields :=
  List.mem_cons_of_mem _ List.mem_cons_self

/-- The default of a gauge that is not a number meets its fate. -/
theorem unrenderedDefaults_pointedOut_gaugeModel :
    gaugeModel.validate = .ok () ∧
      gauge ∈ gaugeModel.entities ∧
      readingField ∈ gauge.fields ∧
      readingField.defaultValue = some (.float (0.0 / 0.0)) ∧
      DefaultFate gaugeModel gauge readingField (.float (0.0 / 0.0)) :=
  ⟨gaugeModel_valid, List.mem_cons_self, readingField_mem, rfl,
    unrenderedDefaults_pointedOut gaugeModel_valid List.mem_cons_self readingField_mem rfl⟩

/-- No warning is given of a default on a valid model that no database's column shows. -/
theorem gaugeModel_default_not_pointedOut :
    gaugeModel.validate = .ok () ∧
      gauge ∈ gaugeModel.entities ∧
      readingField ∈ gauge.fields ∧
      readingField.defaultValue = some (.float (0.0 / 0.0)) ∧
      ¬ PointedOut gaugeModel gauge readingField ∧
      ∀ database, ∃ column,
        (TableUnit.column gaugeModel database gauge (noComments database gauge.tableId)
          readingField).2 = .ok column ∧
        ¬ column.body.ShowsDefault := by
  have wellFormed := Model.validate_eq_ok_iff.mp gaugeModel_valid
  have member : gauge ∈ gaugeModel.entities := List.mem_cons_self
  refine ⟨gaugeModel_valid, member, readingField_mem, rfl, ?_, ?_⟩
  · rw [pointedOut_iff wellFormed member readingField_mem]
    decide
  · intro database
    have typed : ∃ name, gaugeModel.columnType database readingField = .ok name := by
      cases database <;> exact ⟨_, rfl⟩
    obtain ⟨column, made⟩ := exists_column_iff.mpr typed
    refine ⟨column, made, ?_⟩
    obtain ⟨body, found, rfl⟩ := column_eq_ok_iff.mp made
    have fieldFormed := (wellFormed.entityFormed member).fieldsValid _ readingField_mem
    rw [columnBody_showsDefault_iff fieldFormed found]
    decide +kernel

end SchemaScript
