import SchemaScript.Proofs.Model.ColumnType

/-!
# Failures of checks

The checks of a model and of its parts raise only errors that the author of
the model can mend.
-/

namespace SchemaScript

/-- A model with a bad name is the fault of its author. -/
theorem ModelMeta.validate_fails
    {info : ModelMeta} :
    FailsForAuthor info.validate :=
  .bind (failsOnly_require rfl) fun _ _ => failsOnly_require rfl

/-- A relationship that breaks its own rules is an error of the author. -/
theorem Relationship.validate_fails
    {relationship : Relationship} :
    FailsForAuthor relationship.validate := by
  refine .bind (failsOnly_require rfl) fun _ _ => ?_
  refine .bind (failsOnly_require rfl) fun _ _ => ?_
  refine .bind (failsOnly_require rfl) fun _ _ => ?_
  split
  · exact failsOnly_require rfl
  · exact failsOnly_require rfl

namespace Entity

variable {entity : Entity}

/-- A bad field is the fault of its author. -/
theorem checkField_fails
    {field : Field} :
    FailsForAuthor (entity.checkField field) := by
  simp only [checkField]
  split
  · exact failsOnly_ok
  · exact failsOnly_error rfl

/-- Fields of one name are an error of the author. -/
theorem checkDistinctFields_fails
    {names columns : List String}
    {fields : List Field} :
    FailsForAuthor (entity.checkDistinctFields names columns fields) := by
  induction fields generalizing names columns with
  | nil =>
      exact failsOnly_ok
  | cons field later inductionHypothesis =>
      simp only [checkDistinctFields]
      split
      · exact failsOnly_error rfl
      · split
        · exact failsOnly_error rfl
        · exact inductionHypothesis

/-- A relationship without its field is an error of the author. -/
theorem checkRelationship_fails
    {relationship : Relationship} :
    FailsForAuthor (entity.checkRelationship relationship) := by
  refine .bind Relationship.validate_fails fun _ _ => ?_
  split
  · split
    · exact failsOnly_require rfl
    · exact failsOnly_error rfl
  · exact failsOnly_ok

/-- What covers columns fails in the entity's name or for a name that finds nothing. -/
theorem checkCovering_fails
    {own : Except SchemaError Unit}
    {names : List String} :
    FailsForAuthor (entity.checkCovering own names) := by
  simp only [checkCovering]
  split
  · apply failsOnly_checkAll
    intro name _
    split
    · exact failsOnly_ok
    · next error failed =>
        exact failsOnly_error (resolveField_fails error failed)
  · exact failsOnly_error rfl

/-- An entity fails its checks by errors of the author only. -/
theorem validate_fails :
    FailsForAuthor entity.validate := by
  refine .bind (failsOnly_require rfl) fun _ _ => ?_
  refine .bind (failsOnly_require rfl) fun _ _ => ?_
  refine .bind (failsOnly_require rfl) fun _ _ => ?_
  refine .bind (failsOnly_require rfl) fun _ _ => ?_
  refine .bind (failsOnly_require rfl) fun _ _ => ?_
  refine .bind (failsOnly_checkAll fun _ _ => checkField_fails) fun _ _ => ?_
  refine .bind checkDistinctFields_fails fun _ _ => ?_
  refine .bind (failsOnly_checkAll fun _ _ => checkRelationship_fails) fun _ _ => ?_
  refine .bind (failsOnly_checkAll fun _ _ => checkCovering_fails) fun _ _ => ?_
  exact failsOnly_checkAll fun _ _ => checkCovering_fails

end Entity

namespace Model

variable {model : Model}

/-- Entities of one name or table are an error of the author. -/
theorem checkDistinctEntities_fails
    {names : List String}
    {tables : List TableId}
    {entities : List Entity} :
    FailsForAuthor (checkDistinctEntities names tables entities) := by
  induction entities generalizing names tables with
  | nil =>
      exact failsOnly_ok
  | cons entity later inductionHypothesis =>
      simp only [checkDistinctEntities]
      split
      · exact failsOnly_error rfl
      · split
        · exact failsOnly_error rfl
        · exact inductionHypothesis

/-- A reference into nowhere is an error of the author. -/
theorem checkReference_fails
    {field : Field} :
    FailsForAuthor (model.checkReference field) := by
  simp only [checkReference]
  split
  · split
    · exact failsOnly_ok
    · next error failed =>
        exact failsOnly_error (requireEntity_fails error failed)
  · exact failsOnly_ok

/-- A relationship into nowhere, or with a join table that is taken, is an error of the author. -/
theorem checkLink_fails
    {owner : Entity}
    {owners : JoinOwners}
    {relationship : Relationship} :
    FailsForAuthor (model.checkLink owner owners relationship) := by
  refine .bind requireEntity_fails fun _ _ => ?_
  refine .bind Entity.referencedField_fails fun _ _ => ?_
  split
  · simp only [checkJoinTable]
    split
    · exact failsOnly_error rfl
    · split
      · exact failsOnly_error rfl
      · exact failsOnly_ok
  · exact failsOnly_ok

/-- The relationships of an entity fail by errors of the author only. -/
theorem checkLinks_fails
    {owner : Entity}
    {owners : JoinOwners}
    {relationships : List Relationship} :
    FailsForAuthor (model.checkLinks owner owners relationships) := by
  induction relationships generalizing owners with
  | nil =>
      exact failsOnly_ok
  | cons relationship later inductionHypothesis =>
      simp only [checkLinks]
      split
      · exact inductionHypothesis
      · next error failed =>
          exact failsOnly_error (checkLink_fails error failed)

/-- What connects entities fails by errors of the author only. -/
theorem checkConnections_fails
    {owners : JoinOwners}
    {entities : List Entity} :
    FailsForAuthor (model.checkConnections owners entities) := by
  induction entities generalizing owners with
  | nil =>
      exact failsOnly_ok
  | cons entity later inductionHypothesis =>
      have referencesFail : FailsForAuthor (checkAll model.checkReference entity.fields) :=
        failsOnly_checkAll fun _ _ => checkReference_fails
      simp only [checkConnections]
      split
      · split
        · exact inductionHypothesis
        · next error failed =>
            exact failsOnly_error (checkLinks_fails error failed)
      · next error failed =>
          exact failsOnly_error (referencesFail error failed)

/-- The checks of a model raise only errors that its author can mend. -/
theorem validate_fails :
    FailsForAuthor model.validate := by
  refine .bind ModelMeta.validate_fails fun _ _ => ?_
  refine .bind (failsOnly_checkAll fun _ _ => Entity.validate_fails) fun _ _ => ?_
  refine .bind checkDistinctEntities_fails fun _ _ => ?_
  exact checkConnections_fails

end Model

end SchemaScript
