import SchemaScript.Command
import SchemaScript.Proofs.Report.Coverage

/-!
# Decisions by reports

A report is looked at in two ways: the command that reports on models counts
errors, and planning asks for the mark.  Both decide alike, and what they look
at is what the rules find, one rule after another.
-/

namespace SchemaScript

open Report

/-! ## Two ways to look at a report -/

/-- The error that a report is refused with. -/
def Report.refusal (report : Report) : SchemaError :=
  .invalid ("; ".intercalate (report.errors.map ReportError.display))

/-- A report is refused exactly when it lists errors. -/
theorem Report.Consistent.toResult_eq
    {report : Report}
    (consistent : report.Consistent) :
    report.toResult = if report.hasErrors then .error report.refusal else .ok () := by
  rw [consistent.hasErrors_eq]
  cases valid : report.valid with
  | true =>
      exact require_eq_ok_iff.mpr valid
  | false =>
      simp only [toResult, valid]
      rfl

/-- The command that reports on a model fails exactly when planning refuses the report. -/
theorem Command.validateOutcome_failure_eq_none_iff
    {heading : String}
    {model : Model} :
    (Command.validateOutcome heading model).failure = none ↔
      (Report.ofModel model).toResult = .ok () := by
  rw [ofModel_consistent.toResult_eq, Report.ofModel, Command.validateOutcome]
  cases (Report.ofRules Rule.all model).hasErrors <;> simp [Outcome.failed, Outcome.printed]

/-- Planning goes on after the checks of a model exactly when the report lists no errors. -/
theorem Plan.ofModel_eq_of_hasErrors
    {model : Model}
    {database : Database} :
    Plan.ofModel model database =
      (do
        model.validate
        if (Report.ofModel model).hasErrors then
          .error (Report.ofModel model).refusal
        else
          Plan.ofChecked model database) := by
  rw [Plan.ofModel]
  cases model.validate with
  | error error =>
      rfl
  | ok =>
      simp only [ok_bind, ofModel_consistent.toResult_eq]
      cases (Report.ofModel model).hasErrors <;> rfl

/-! ## Reports by rules -/

/-- The errors of a report are those of its rules, in their order. -/
theorem Report.ofRules_errors
    {rules : List Rule}
    {model : Model} :
    (ofRules rules model).errors = rules.flatMap fun rule => (rule.check model).errors := by
  rw [ofRules, mergeAll_errors, List.flatMap_map]

/-- The warnings of a report are those of its rules, in their order. -/
theorem Report.ofRules_warnings
    {rules : List Rule}
    {model : Model} :
    (ofRules rules model).warnings = rules.flatMap fun rule => (rule.check model).warnings := by
  rw [ofRules, mergeAll_warnings, List.flatMap_map]

/--
However a report is built, it is marked as valid exactly when it lists no
error, and it is refused exactly when errors are found in it.  So the command
that reports on a model and planning decide alike.  Merging is associative, and
the clean report is its identity.  Any rules, some of them repeated, make up a
report that is built so and lists what each of them finds, one after another.
-/
theorem reports_compose :
    (∀ report : Report, report.Built →
      (report.valid = true ↔ report.errors = []) ∧
        report.toResult = if report.hasErrors then .error report.refusal else .ok ()) ∧
      (∀ heading model,
        (Command.validateOutcome heading model).failure = none ↔
          (Report.ofModel model).toResult = .ok ()) ∧
      (∀ model database,
        Plan.ofModel model database =
          (do
            model.validate
            if (Report.ofModel model).hasErrors then
              .error (Report.ofModel model).refusal
            else
              Plan.ofChecked model database)) ∧
      (∀ first second third : Report,
        (first.merge second).merge third = first.merge (second.merge third)) ∧
      (∀ report : Report, clean.merge report = report ∧ report.merge clean = report) ∧
      ∀ rules model,
        (ofRules rules model).Built ∧
          (ofRules rules model).errors = rules.flatMap (fun rule => (rule.check model).errors) ∧
          (ofRules rules model).warnings =
            rules.flatMap fun rule => (rule.check model).warnings := by
  refine
    ⟨?_, fun _ _ => Command.validateOutcome_failure_eq_none_iff,
      fun _ _ => Plan.ofModel_eq_of_hasErrors, fun _ _ _ => merge_assoc,
      fun _ => ⟨clean_merge, merge_clean⟩, ?_⟩
  · intro report built
    exact ⟨built.consistent.valid_iff, built.consistent.toResult_eq⟩
  · intro rules model
    exact ⟨built_iff_consistent.mpr ofRules_consistent, ofRules_errors, ofRules_warnings⟩

/-- A model and its only entity have no name. -/
def namelessModel : Model where
  info := .named ""
  entities := [.named ""]

/-- An error, and another after a warning that was merged with it. -/
def namelessReport : Report :=
  (ofError
    { code := .emptyModelName
      message := "Model name cannot be empty"
      path := none
      suggestion := none }).merge
  (clean.merge
    ((clean.addWarning
      { code := .emptyModel
        message := "Model has no entities; the generated script will be empty"
        path := none }).addError
      { code := .emptyEntityName
        message := "Entity name cannot be empty"
        path := some "entities[0]"
        suggestion := none }))

/-- Names that are missing make a report, and a rule that is applied twice reports twice. -/
theorem reports_compose_namelessReport :
    namelessReport.Built ∧
      namelessReport.valid = false ∧
      namelessReport.toResult =
        .error
          (.invalid "Model name cannot be empty; [entities[0]] Entity name cannot be empty") ∧
      (ofRules [.modelMeta, .entityNames, .modelMeta] namelessModel).errors.map (·.code) =
        [.emptyModelName, .emptyEntityName, .emptyModelName] := by
  have built : namelessReport.Built :=
    (Built.ofError _).merge (Built.clean.merge ((Built.clean.addWarning _).addError _))
  obtain ⟨decides, _, _, _, _, byRules⟩ := reports_compose
  obtain ⟨valid_iff, refused⟩ := decides namelessReport built
  refine ⟨built, ?_, ?_, ?_⟩
  · rw [Bool.eq_false_iff, ne_eq, valid_iff]
    exact nofun
  · rw [refused]
    decide +kernel
  · rw [(byRules _ _).2.1]
    decide +kernel

end SchemaScript
