import SchemaScript.Proofs.Model.Failure
import SchemaScript.Proofs.Script.Success

/-!
# When no script is written

A script that is not written is refused for an error that the author of the
model can mend, or for a cycle of tables.  There is one exception: an array of
references, which the checks of a model let pass and the types of PostgreSQL
have no name for, is reported as an internal error.
-/

namespace SchemaScript

open TableUnit

/-- What a report fails with is the fault of the author. -/
theorem Report.toResult_fails
    {report : Report} :
    FailsForAuthor report.toResult :=
  failsOnly_require rfl

/-- Putting units in order fails for a cycle only. -/
theorem TableUnit.order_fails
    {Body : Type}
    {units : List (TableUnit Body)} :
    FailsOnly (fun error => error.isCyclic = true) (order units) := by
  intro error failed
  obtain ⟨_, stuck, _, _, rfl⟩ := run_of_order_eq_error failed
  rfl

/-- Why a script is refused: its model can be mended, tables form a cycle, or arrays refer. -/
def Refusal (model : Model) (database : Database) (error : SchemaError) : Prop :=
  error.isModelError = true ∨ error.isCyclic = true ∨
    ∃ entity ∈ model.entities, ∃ field ∈ entity.fields,
      model.HoldsReferences database field error

namespace Plan

variable {model : Model} {database : Database}

/-- Making the units of a well-formed model is refused for its types and defaults only. -/
theorem unitsOf_refused
    (wellFormed : model.WellFormed) :
    FailsOnly (Refusal model database) (unitsOf model database [] model.entities) := by
  intro error failed
  rcases unitsOf_fails wellFormed (List.Subset.refl _) error failed with
    ⟨_, _, _, name, _, _, rfl⟩ | ⟨entity, entityMember, field, fieldMember, untyped⟩
  · exact .inl rfl
  · rcases Model.columnType_fails error untyped with forAuthor | holds
    · exact .inl forAuthor
    · exact .inr (.inr ⟨entity, entityMember, field, fieldMember, holds⟩)

/-- Planning a model is refused for the listed reasons only. -/
theorem ofModel_refused :
    FailsOnly (Refusal model database) (ofModel model database) := by
  refine .bind (Model.validate_fails.mono fun _ => .inl) fun _ valid => ?_
  have wellFormed := Model.validate_eq_ok_iff.mp valid
  refine .bind (Report.toResult_fails.mono fun _ => .inl) fun _ _ => ?_
  refine .bind (unitsOf_refused wellFormed) fun _ _ => ?_
  refine .bind (order_fails.mono fun _ cyclic => .inr (.inl cyclic)) fun _ _ => ?_
  exact failsOnly_ok

end Plan

/--
A script that is not written is refused for an error that its model's author
can mend, for a cycle of tables, or for a field that holds references in
arrays.  No default stands in its way.
-/
theorem generate_refused
    {model : Model}
    {target : Target}
    {error : SchemaError}
    (failed : Script.generate model target = .error error) :
    (error.isModelError = true ∨ error.isCyclic = true ∨
      ∃ entity ∈ model.entities, ∃ field ∈ entity.fields,
        model.HoldsReferences target.database field error) ∧
      ∀ column reason, error ≠ .unsupportedDefault column reason := by
  have planFailed : Plan.ofModel model target.database = .error error := by
    simp only [Script.generate] at failed
    split at failed
    · cases failed
    · next planFailed =>
        cases failed
        exact planFailed
  have refused : Refusal model target.database error := Plan.ofModel_refused error planFailed
  refine ⟨refused, ?_⟩
  rintro column reason rfl
  rcases refused with notMended | notCyclic | ⟨_, _, _, _, _, _, _, _, _, _, notInternal⟩
  · cases notMended
  · cases notCyclic
  · cases notInternal

/-- A model whose tasks hold an array of references to teams. -/
def rosterModel : Model where
  info := .named "Roster"
  entities := [
    Entity.named "Team",
    (Entity.named "Task").withField (Field.named "teams" (.array (.reference "Team" "")))]

/-- The roster is a valid model that PostgreSQL has no type for. -/
theorem generate_rosterModel :
    rosterModel.validate = .ok () ∧
      Script.generate rosterModel Target.standard =
        .error (.internal "reference type Ref<Team> reached the dialect unresolved") := by
  decide +kernel

/-- A roster that holds a list of references is refused for one of the reasons there are. -/
theorem generate_refused_rosterModel :
    ∃ error, Script.generate rosterModel Target.standard = .error error ∧
      (error.isModelError = true ∨ error.isCyclic = true ∨
        ∃ entity ∈ rosterModel.entities, ∃ field ∈ entity.fields,
          rosterModel.HoldsReferences Target.standard.database field error) ∧
      ∀ column reason, error ≠ .unsupportedDefault column reason :=
  ⟨_, generate_rosterModel.2, generate_refused generate_rosterModel.2⟩

/-- A valid model is refused with an error that cannot be mended and is no cycle. -/
theorem generate_rosterModel_not_documented :
    rosterModel.validate = .ok () ∧
      ∃ error, Script.generate rosterModel Target.standard = .error error ∧
        ¬ (error.isModelError = true ∨ error.isCyclic = true) := by
  obtain ⟨valid, failed⟩ := generate_rosterModel
  refine ⟨valid, _, failed, ?_⟩
  simp [SchemaError.isModelError, SchemaError.isValidation, SchemaError.isCyclic]

end SchemaScript
