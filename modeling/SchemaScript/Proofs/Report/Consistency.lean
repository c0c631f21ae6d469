import SchemaScript.Report.Rules
import SchemaScript.Proofs.Report.Merging

/-!
# The mark of a valid report

Whatever a rule looks at, it marks its report as valid exactly when it lists no
error, and so does a report by any rules.
-/

namespace SchemaScript

/-! ## The rules one by one -/

namespace Rule

open Report

/-- The check of the names is consistent from every position. -/
theorem checkNames_consistent
    {position : Nat}
    {names : List String}
    {tables : List TableId}
    {entities : List Entity} :
    (checkNames position names tables entities).Consistent := by
  induction entities generalizing position names tables with
  | nil =>
      exact consistent_clean
  | cons entity later inductionHypothesis =>
      rw [checkNames]
      split
      · exact consistent_ofError.merge inductionHypothesis
      · split
        · exact consistent_addError.merge inductionHypothesis
        · have ownName : (checkEntityName names entity).Consistent :=
            consistent_errorIf.merge consistent_errorIf
          have ownTable : (checkTable tables entity).Consistent :=
            consistent_errorIf.merge consistent_warningIf
          exact (ownName.merge ownTable).merge inductionHypothesis

/-- A default only ever warns. -/
theorem checkDefault_consistent
    {path : String}
    {field : Field} :
    (checkDefault path field).Consistent := by
  rw [checkDefault]
  split <;> rfl

/-- The check of a list of fields is consistent, whatever names were used before it. -/
theorem checkFieldList_consistent
    {entity : Entity}
    {names columns : List String}
    {fields : List Field} :
    (checkFieldList entity names columns fields).Consistent := by
  induction fields generalizing names columns with
  | nil =>
      exact consistent_clean
  | cons field later inductionHypothesis =>
      rw [checkFieldList]
      split
      · exact consistent_ofError.merge inductionHypothesis
      · have own
            (path : String) :
            (checkField path names columns field).Consistent := by
          apply consistent_mergeAll
          simp only [List.forall_mem_cons, consistent_errorIf, checkDefault_consistent,
            List.not_mem_nil, false_implies, implies_true, and_true]
        exact (own _).merge inductionHypothesis

theorem checkFields_consistent
    {entity : Entity} :
    (checkFields entity).Consistent := by
  have keys : (checkKeys entity).Consistent := by
    rw [checkKeys]
    split <;> rfl
  exact keys.merge checkFieldList_consistent

/-- The check of one relationship is consistent. -/
theorem checkRelationship_consistent
    {model : Model}
    {entity : Entity}
    {owners : Model.JoinOwners}
    {relationship : Relationship} :
    (checkRelationship model entity owners relationship).Consistent := by
  apply consistent_mergeAll
  simp only [List.forall_mem_cons, List.not_mem_nil, false_implies, implies_true, and_true]
  refine ⟨?_, ?_, ?_⟩
  · rw [checkOwnRules]
    split <;> rfl
  · rw [checkTarget]
    split
    · rfl
    · split <;> rfl
  · split
    · exact consistent_errorIf.merge consistent_warningIf
    · rw [checkJunction]
      split <;> rfl

/-- The check of all relationships is consistent, whatever join tables were claimed before. -/
theorem checkRelationships_consistent
    {model : Model}
    {owners : Model.JoinOwners}
    {entities : List Entity} :
    (checkRelationships model owners entities).Consistent := by
  have listed
      (entity : Entity)
      (owners : Model.JoinOwners)
      (relationships : List Relationship) :
      (checkRelationshipList model entity owners relationships).1.Consistent := by
    induction relationships generalizing owners with
    | nil =>
        exact consistent_clean
    | cons relationship later inductionHypothesis =>
        exact checkRelationship_consistent.merge (inductionHypothesis _)
  induction entities generalizing owners with
  | nil =>
      exact consistent_clean
  | cons entity later inductionHypothesis =>
      exact (listed entity owners entity.relationships).merge inductionHypothesis

theorem checkEntry_consistent
    {entity : Entity}
    {kind : String}
    {names : List String} :
    (checkEntry entity kind names).Consistent := by
  rw [checkEntry]
  split
  · rfl
  · apply consistent_mergeAll
    rw [List.forall_mem_map]
    exact fun _ _ => consistent_errorIf

theorem checkIndexes_consistent
    {entity : Entity} :
    (checkIndexes entity).Consistent := by
  have listed
      (seen : List (List String))
      (indexes : List Index) :
      (checkIndexList entity seen indexes).Consistent := by
    induction indexes generalizing seen with
    | nil =>
        exact consistent_clean
    | cons index later inductionHypothesis =>
        exact (checkEntry_consistent.merge consistent_warningIf).merge (inductionHypothesis _)
  refine Consistent.merge (consistent_mergeAll ?_) (listed [] entity.indexes)
  rw [List.forall_mem_map]
  exact fun _ _ => checkEntry_consistent

/-- What any one rule reports is consistent. -/
theorem check_consistent
    {rule : Rule}
    {model : Model} :
    (rule.check model).Consistent := by
  cases rule with
  | modelMeta =>
      exact consistent_errorIf.merge consistent_warningIf
  | entityNames =>
      exact checkNames_consistent
  | entityFields =>
      apply consistent_mergeAll
      rw [List.forall_mem_map]
      exact fun _ _ => checkFields_consistent
  | relationships =>
      exact checkRelationships_consistent
  | indexes =>
      apply consistent_mergeAll
      rw [List.forall_mem_map]
      exact fun _ _ => checkIndexes_consistent

end Rule

namespace Report

variable {rules : List Rule} {model : Model}

/-- The report by some rules is marked as valid exactly when it lists no error. -/
theorem ofRules_consistent : (ofRules rules model).Consistent := by
  apply consistent_mergeAll
  rw [List.forall_mem_map]
  exact fun _ _ => Rule.check_consistent

/-- The report on a model is consistent. -/
theorem ofModel_consistent : (ofModel model).Consistent :=
  ofRules_consistent

end Report

end SchemaScript
