import SchemaScript.Proofs.Report.Acceptance

/-!
# What the rules warn of

The warnings of a report stand in the order in which they were found.  On a
well-formed model the rule on fields warns of the fields whose default it takes
to be left out of the column, and the rule on indexes warns of each index that
lists the same names as one before it.
-/

namespace SchemaScript

namespace Rule

/-! ## Defaults that are left out -/

/-- The path of a field. -/
def fieldPath (entity : Entity) (field : Field) : String :=
  entityPath entity ++ ".fields." ++ field.name

/-- What a field is warned of, if its default is taken to be left out of its column. -/
def defaultWarning? (entity : Entity) (field : Field) : Option ReportWarning :=
  (unrenderedReason? field).map fun reason =>
    { code := .defaultNotRendered
      message := "Field '" ++ field.name ++ "': " ++ reason
      path := some (fieldPath entity field) }

/-- The check of a default warns about the default only. -/
theorem checkDefault_warnings
    {entity : Entity}
    {field : Field} :
    (checkDefault (fieldPath entity field) field).warnings =
      (defaultWarning? entity field).toList := by
  rw [checkDefault, defaultWarning?]
  cases unrenderedReason? field <;> rfl

/-- The check of a field warns about its default only. -/
theorem checkField_warnings
    {entity : Entity}
    {names columns : List String}
    {field : Field} :
    (checkField (fieldPath entity field) names columns field).warnings =
      (defaultWarning? entity field).toList := by
  simp [checkField, checkDefault_warnings]

/-- The check of a list of fields warns about their defaults, in their order. -/
theorem checkFieldList_warnings
    {entity : Entity}
    {names columns : List String}
    {fields : List Field}
    (named : ∀ field ∈ fields, field.name ≠ "") :
    (checkFieldList entity names columns fields).warnings =
      fields.filterMap (defaultWarning? entity) := by
  induction fields generalizing names columns with
  | nil =>
      rfl
  | cons field later inductionHypothesis =>
      obtain ⟨fieldNamed, laterNamed⟩ := List.forall_mem_cons.mp named
      have own :
          (checkField (entityPath entity ++ ".fields." ++ field.name) names columns
            field).warnings = (defaultWarning? entity field).toList :=
        checkField_warnings
      simp only [checkFieldList, String.isEmpty_iff, fieldNamed, if_false,
        Report.merge_warnings, own, inductionHypothesis laterNamed]
      cases warned : defaultWarning? entity field <;> simp [warned]

theorem checkKeys_warnings
    {entity : Entity} :
    (checkKeys entity).warnings = [] := by
  rw [checkKeys]
  split <;> rfl

/-- The rule on fields warns of fields, in the order in which they are declared. -/
theorem entityFields_warnings
    {model : Model}
    (wellFormed : model.WellFormed) :
    (Rule.entityFields.check model).warnings =
      model.entities.flatMap fun entity => entity.fields.filterMap (defaultWarning? entity) := by
  rw [check, Report.mergeAll_warnings, List.flatMap_map]
  apply List.flatMap_congr
  intro entity member
  have named :
      ∀ field ∈ entity.fields, field.name ≠ "" :=
    fun field fieldMember =>
      ((wellFormed.entityFormed member).fieldsValid field fieldMember).nameGiven
  rw [checkFields, Report.merge_warnings, checkKeys_warnings, List.nil_append,
    checkFieldList_warnings named]

/-! ## Indexes that list the same names -/

/-- An index that is declared, and those that are declared before it. -/
structure Declaration where
  earlier : List Index
  index : Index
  deriving DecidableEq

/-- Some indexes, each with those before it; the first of them comes after `earlier`. -/
def declarationsAfter (earlier : List Index) : List Index → List Declaration
  | [] => []
  | index :: later => { earlier, index } :: declarationsAfter (earlier ++ [index]) later

/-- The indexes that an entity declares, each with those before it. -/
def declarations (entity : Entity) : List Declaration :=
  declarationsAfter [] entity.indexes

/-- An index lists the same names as one before it. -/
def Declaration.listsAgain (declaration : Declaration) : Bool :=
  declaration.earlier.any fun other => other.fields == declaration.index.fields

/-- What an index is warned of that lists the same names as one before it. -/
def Declaration.warning (entity : Entity) (declaration : Declaration) : ReportWarning where
  code := .duplicateIndex
  message :=
    "Index on (" ++ ", ".intercalate declaration.index.fields ++
      ") is declared twice and will be emitted once"
  path := some (entityPath entity ++ ".indexes")

/-- A declaration is an index and all that were declared before it. -/
theorem mem_declarationsAfter
    {earlier indexes : List Index}
    {declaration : Declaration} :
    declaration ∈ declarationsAfter earlier indexes ↔
      ∃ before later, indexes = before ++ declaration.index :: later ∧
        declaration.earlier = earlier ++ before := by
  induction indexes generalizing earlier with
  | nil =>
      simp [declarationsAfter]
  | cons index later inductionHypothesis =>
      rw [declarationsAfter, List.mem_cons, inductionHypothesis]
      constructor
      · rintro (rfl | ⟨before, after, rfl, sameEarlier⟩)
        · exact ⟨[], later, rfl, by simp⟩
        · exact ⟨index :: before, after, rfl, by simpa using sameEarlier⟩
      · rintro ⟨_ | ⟨first, before⟩, after, sameIndexes, sameEarlier⟩
        · rw [List.nil_append, List.cons.injEq] at sameIndexes
          rw [List.append_nil] at sameEarlier
          obtain ⟨rfl, _⟩ := sameIndexes
          subst sameEarlier
          exact .inl rfl
        · rw [List.cons_append, List.cons.injEq] at sameIndexes
          obtain ⟨rfl, rfl⟩ := sameIndexes
          exact .inr ⟨before, after, rfl, by simpa using sameEarlier⟩

/-- An index is declared with those before it in the list of the entity's indexes. -/
theorem mem_declarations
    {entity : Entity}
    {declaration : Declaration} :
    declaration ∈ declarations entity ↔
      ∃ later, entity.indexes = declaration.earlier ++ declaration.index :: later := by
  rw [declarations, mem_declarationsAfter]
  constructor
  · rintro ⟨before, later, listed, sameEarlier⟩
    exact ⟨later, by rw [listed, sameEarlier, List.nil_append]⟩
  · rintro ⟨later, listed⟩
    exact ⟨declaration.earlier, later, listed, rfl⟩

theorem checkEntry_warnings
    {entity : Entity}
    {kind : String}
    {names : List String} :
    (checkEntry entity kind names).warnings = [] := by
  cases names <;> simp [checkEntry, checkCovering]

/-- The check of the indexes warns about those that list the fields of an earlier one. -/
theorem checkIndexList_warnings
    {entity : Entity}
    {seen : List (List String)}
    {earlier indexes : List Index}
    (known : ∀ names, names ∈ seen ↔ ∃ other ∈ earlier, other.fields = names)
    (listed : ∀ index ∈ indexes, index.fields ≠ []) :
    (checkIndexList entity seen indexes).warnings =
      ((declarationsAfter earlier indexes).filter (·.listsAgain)).map
        (Declaration.warning entity) := by
  induction indexes generalizing seen earlier with
  | nil =>
      rfl
  | cons index later inductionHypothesis =>
      obtain ⟨indexListed, laterListed⟩ := List.forall_mem_cons.mp listed
      have stillKnown
          (names : List String) :
          names ∈ index.fields :: seen ↔
            ∃ other ∈ earlier ++ [index], other.fields = names := by
        simp only [List.mem_cons, known, List.mem_append, List.not_mem_nil, or_false, or_and_right,
          exists_or, exists_eq_left]
        rw [or_comm, eq_comm]
      have repeated :
          (!index.fields.isEmpty && seen.contains index.fields) =
            Declaration.listsAgain { earlier, index } := by
        rw [Bool.eq_iff_iff]
        simp [Declaration.listsAgain, indexListed, known]
      simp only [checkIndexList, repeated, Report.merge_warnings, checkEntry_warnings,
        Report.warningIf_warnings, List.nil_append, declarationsAfter,
        inductionHypothesis stillKnown laterListed]
      cases again : Declaration.listsAgain { earlier, index } <;>
        simp [again, Declaration.warning]

/-- The rule on indexes warns of those that list the same names as one before them. -/
theorem indexes_warnings
    {model : Model}
    (wellFormed : model.WellFormed) :
    (Rule.indexes.check model).warnings =
      model.entities.flatMap fun entity =>
        ((declarations entity).filter (·.listsAgain)).map (Declaration.warning entity) := by
  rw [check, Report.mergeAll_warnings, List.flatMap_map]
  apply List.flatMap_congr
  intro entity member
  have listed
      (index : Index)
      (declared : index ∈ entity.indexes) :
      index.fields ≠ [] :=
    (Index.validate_eq_ok_iff.mp
      ((wellFormed.entityFormed member).indexesValid index declared)).1
  have noneKnown
      (names : List String) :
      names ∈ ([] : List (List String)) ↔ ∃ other ∈ ([] : List Index), other.fields = names := by
    simp
  rw [checkIndexes, Report.merge_warnings, Report.mergeAll_warnings,
    checkIndexList_warnings noneKnown listed]
  simp [checkEntry_warnings, declarations]

end Rule

end SchemaScript
