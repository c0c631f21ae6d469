import SchemaScript.Report

/-!
# Putting reports together

Reports are begun clean or with one error, and grow by errors, by warnings and
by whole reports.  A report says twice whether all is in order: it carries a
mark, and it lists errors.  However it is put together the two agree, and each
report in which they agree can be put together.  Merging is associative, and
the clean report changes nothing, so that several reports are merged one after
another.
-/

namespace SchemaScript.Report

variable {report first second third : Report} {reports : List Report}

/-! ## Parts of reports -/

attribute [ext] Report

@[simp] theorem clean_valid : clean.valid = true := rfl

@[simp] theorem clean_errors : clean.errors = [] := rfl

@[simp] theorem clean_warnings : clean.warnings = [] := rfl

@[simp] theorem ofError_valid {error : ReportError} : (ofError error).valid = false := rfl

@[simp] theorem ofError_errors {error : ReportError} : (ofError error).errors = [error] := rfl

@[simp] theorem ofError_warnings {error : ReportError} : (ofError error).warnings = [] := rfl

@[simp] theorem addError_valid {error : ReportError} :
    (report.addError error).valid = false := rfl

@[simp] theorem addWarning_valid {warning : ReportWarning} :
    (report.addWarning warning).valid = report.valid := rfl

@[simp] theorem addWarning_errors {warning : ReportWarning} :
    (report.addWarning warning).errors = report.errors := rfl

@[simp] theorem addWarning_warnings {warning : ReportWarning} :
    (report.addWarning warning).warnings = report.warnings ++ [warning] := rfl

@[simp] theorem merge_valid : (first.merge second).valid = (first.valid && second.valid) := rfl

@[simp] theorem merge_errors :
    (first.merge second).errors = first.errors ++ second.errors := rfl

@[simp] theorem merge_warnings :
    (first.merge second).warnings = first.warnings ++ second.warnings := rfl

@[simp] theorem errorIf_valid {condition : Bool} {error : ReportError} :
    (errorIf condition error).valid = !condition := by
  cases condition <;> rfl

@[simp] theorem errorIf_warnings {condition : Bool} {error : ReportError} :
    (errorIf condition error).warnings = [] := by
  cases condition <;> rfl

@[simp] theorem warningIf_valid {condition : Bool} {warning : ReportWarning} :
    (warningIf condition warning).valid = true := by
  cases condition <;> rfl

@[simp] theorem warningIf_warnings {condition : Bool} {warning : ReportWarning} :
    (warningIf condition warning).warnings = if condition then [warning] else [] := by
  cases condition <;> rfl

/-! ## Merging -/

/-- It does not matter which of three reports are merged first. -/
theorem merge_assoc : (first.merge second).merge third = first.merge (second.merge third) := by
  simp only [merge, Bool.and_assoc, List.append_assoc]

theorem clean_merge : clean.merge report = report := rfl

theorem merge_clean : report.merge clean = report := by
  simp only [merge, clean, Bool.and_true, List.append_nil]

/-- The first of several reports is merged with what the later ones come to. -/
theorem mergeAll_cons : mergeAll (report :: reports) = report.merge (mergeAll reports) := by
  have associative : Std.Associative merge := ⟨fun _ _ _ => merge_assoc⟩
  calc
    mergeAll (report :: reports) = reports.foldl merge report := rfl
    _ = reports.foldl merge (report.merge clean) := by rw [merge_clean]
    _ = report.merge (mergeAll reports) := List.foldl_assoc

/-- Merged reports are valid exactly when each of them is. -/
@[simp] theorem mergeAll_valid :
    (mergeAll reports).valid = true ↔ ∀ report ∈ reports, report.valid = true := by
  induction reports with
  | nil =>
      simp [mergeAll]
  | cons report later inductionHypothesis =>
      simp [mergeAll_cons, inductionHypothesis]

/-- Merged reports list the errors of each of them, one after another. -/
@[simp] theorem mergeAll_errors :
    (mergeAll reports).errors = reports.flatMap (·.errors) := by
  induction reports with
  | nil =>
      rfl
  | cons report later inductionHypothesis =>
      simp [mergeAll_cons, inductionHypothesis]

/-- Merged reports warn of what each of them warns of, one after another. -/
@[simp] theorem mergeAll_warnings :
    (mergeAll reports).warnings = reports.flatMap (·.warnings) := by
  induction reports with
  | nil =>
      rfl
  | cons report later inductionHypothesis =>
      simp [mergeAll_cons, inductionHypothesis]

/-! ## The mark of a report -/

/-- A report is marked as valid exactly when it lists no error. -/
def Consistent (report : Report) : Prop :=
  report.valid = report.errors.isEmpty

theorem consistent_clean : clean.Consistent := rfl

theorem consistent_ofError {error : ReportError} : (ofError error).Consistent := rfl

theorem consistent_errorIf {condition : Bool} {error : ReportError} :
    (errorIf condition error).Consistent := by
  cases condition <;> rfl

theorem consistent_warningIf {condition : Bool} {warning : ReportWarning} :
    (warningIf condition warning).Consistent := by
  cases condition <;> rfl

/-- A report that an error was added to is consistent. -/
theorem consistent_addError {error : ReportError} : (report.addError error).Consistent := by
  simp [Consistent, addError]

/-- A warning has no part in what a report says of its errors. -/
theorem Consistent.addWarning
    (consistent : report.Consistent)
    (warning : ReportWarning) :
    (report.addWarning warning).Consistent :=
  consistent

/-- Merged reports say they are valid exactly when both of them hold no errors. -/
theorem Consistent.merge
    (firstConsistent : first.Consistent)
    (secondConsistent : second.Consistent) :
    (first.merge second).Consistent := by
  rw [Consistent, merge_valid, firstConsistent, secondConsistent, merge_errors]
  cases first.errors <;> rfl

/-- Consistency is kept along a list of reports. -/
theorem consistent_mergeAll
    (consistent : ∀ report ∈ reports, report.Consistent) :
    (mergeAll reports).Consistent := by
  induction reports with
  | nil =>
      exact consistent_clean
  | cons report later inductionHypothesis =>
      obtain ⟨reportConsistent, laterConsistent⟩ := List.forall_mem_cons.mp consistent
      rw [mergeAll_cons]
      exact reportConsistent.merge (inductionHypothesis laterConsistent)

/-- A report without errors is one that is marked as valid. -/
theorem Consistent.hasErrors_eq
    (consistent : report.Consistent) :
    report.hasErrors = !report.valid := by
  rw [hasErrors, consistent]

/-- A consistent report is valid exactly when it holds no errors. -/
theorem Consistent.valid_iff
    (consistent : report.Consistent) :
    report.valid = true ↔ report.errors = [] := by
  rw [consistent, List.isEmpty_iff]

/-! ## Reports that can be put together -/

/-- Reports that begin clean or with one error, and grow by errors, warnings and such reports. -/
inductive Built : Report → Prop
  | clean : Built clean
  | ofError (error : ReportError) : Built (ofError error)
  | addError {report : Report} (built : Built report) (error : ReportError) :
      Built (report.addError error)
  | addWarning {report : Report} (built : Built report) (warning : ReportWarning) :
      Built (report.addWarning warning)
  | merge {first second : Report} (firstBuilt : Built first) (secondBuilt : Built second) :
      Built (first.merge second)

/-- Whatever is added to a report or merged with it, its mark agrees with its errors. -/
theorem Built.consistent (built : report.Built) : report.Consistent := by
  induction built with
  | clean =>
      exact consistent_clean
  | ofError error =>
      exact consistent_ofError
  | addError _ error _ =>
      exact consistent_addError
  | addWarning _ warning consistent =>
      exact consistent.addWarning warning
  | merge _ _ firstConsistent secondConsistent =>
      exact firstConsistent.merge secondConsistent

/-- What is merged from reports that can be built can be built. -/
theorem built_mergeAll
    (built : ∀ report ∈ reports, report.Built) :
    (mergeAll reports).Built := by
  induction reports with
  | nil =>
      exact .clean
  | cons report later inductionHypothesis =>
      obtain ⟨reportBuilt, laterBuilt⟩ := List.forall_mem_cons.mp built
      rw [mergeAll_cons]
      exact reportBuilt.merge (inductionHypothesis laterBuilt)

/-- A report for each error, then one for each warning. -/
def pieces (report : Report) : List Report :=
  report.errors.map ofError ++ report.warnings.map clean.addWarning

/-- A report whose mark agrees with its errors is put together from its pieces. -/
theorem Consistent.mergeAll_pieces
    (consistent : report.Consistent) :
    mergeAll report.pieces = report := by
  have valid : (mergeAll report.pieces).valid = report.valid := by
    rw [Bool.eq_iff_iff, mergeAll_valid, consistent.valid_iff, List.eq_nil_iff_forall_not_mem]
    simp [pieces, or_imp, forall_and]
  have errors : (mergeAll report.pieces).errors = report.errors := by
    simp [pieces, List.flatMap_map]
  have warnings : (mergeAll report.pieces).warnings = report.warnings := by
    simp [pieces, List.flatMap_map]
  exact Report.ext valid errors warnings

/-- The reports that can be put together are those whose mark agrees with their errors. -/
theorem built_iff_consistent : report.Built ↔ report.Consistent := by
  constructor
  · exact Built.consistent
  · intro consistent
    rw [← consistent.mergeAll_pieces]
    apply built_mergeAll
    intro piece member
    rcases List.mem_append.mp member with isError | isWarning
    · obtain ⟨error, _, rfl⟩ := List.mem_map.mp isError
      exact .ofError error
    · obtain ⟨warning, _, rfl⟩ := List.mem_map.mp isWarning
      exact Built.clean.addWarning warning

end SchemaScript.Report
