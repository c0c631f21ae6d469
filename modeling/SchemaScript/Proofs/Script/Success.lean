import SchemaScript.Proofs.Report.Acceptance
import SchemaScript.Proofs.TableUnit.Cycle
import SchemaScript.Proofs.TableUnit.Failure

/-!
# When a script is written

A script of a valid model fails to be written for three reasons only: a table
lies in a namespace and the database has none, a field has no type, or foreign
keys lead from a table to another one and back.
-/

namespace SchemaScript

open Relation Sql TableUnit

/-! ## Foreign keys between tables -/

/-- A foreign key of a field's column refers from the table of an entity to another or the same. -/
def Model.RefersTo (model : Model) (source target : TableId) : Prop :=
  ∃ entity ∈ model.entities, entity.tableId = source ∧
    ∃ field ∈ entity.fields, ∃ key,
      shownReference model entity field = .ok (some key) ∧ key.target = target

/-- Foreign keys lead from a table to another one and back. -/
def Model.ReferenceCycle (model : Model) : Prop :=
  ∃ first second, first ≠ second ∧
    ReflTransGen model.RefersTo first second ∧ ReflTransGen model.RefersTo second first

/-- A model whose references are all those of another one has its cycles at most. -/
theorem Model.ReferenceCycle.mono
    {model other : Model}
    (refers : ∀ source target, other.RefersTo source target → model.RefersTo source target)
    (cycle : other.ReferenceCycle) :
    model.ReferenceCycle := by
  obtain ⟨first, second, different, there, back⟩ := cycle
  exact ⟨first, second, different, .mono refers _ _ there, .mono refers _ _ back⟩

/-- The units of a model depend on each other as the foreign keys refer. -/
theorem TableUnit.dependsOn_eq_refersTo
    {model : Model}
    {database : Database}
    {units : List (TableUnit (List Statement))}
    (unitsOf : List.Forall₂ (UnitOf model database) model.entities units) :
    DependsOn units = model.RefersTo := by
  funext source target
  apply propext
  constructor
  · intro ⟨unit, unitMember, sameId, depends⟩
    obtain ⟨entity, entityMember, unitOf⟩ := exists_left_of_forall₂ unitsOf unitMember
    exact
      ⟨entity, entityMember, unitOf.id.symm.trans sameId, unitOf.mem_dependencies_iff.mp depends⟩
  · intro ⟨entity, entityMember, sameId, refers⟩
    obtain ⟨unit, unitMember, unitOf⟩ := exists_right_of_forall₂ unitsOf entityMember
    exact ⟨unit, unitMember, unitOf.id.trans sameId, unitOf.mem_dependencies_iff.mpr refers⟩

/-- The units of a well-formed model can be put in order unless foreign keys lead back. -/
theorem TableUnit.exists_order_iff_not_referenceCycle
    {model : Model}
    {database : Database}
    (wellFormed : model.WellFormed)
    {units : List (TableUnit (List Statement))}
    (unitsOf : List.Forall₂ (UnitOf model database) model.entities units) :
    (∃ ordered, order units = .ok ordered) ↔ ¬ model.ReferenceCycle := by
  rw [exists_order_iff (selfContained_of_forall₂ wellFormed.tablesDistinct unitsOf), not_iff_not]
  simp only [OnCycle, dependsOn_eq_refersTo unitsOf]
  constructor
  · intro ⟨id, other, different, there, back⟩
    exact ⟨id, other, different.symm, there, back⟩
  · intro ⟨first, second, different, there, back⟩
    exact ⟨first, second, different.symm, there, back⟩

/-! ## Namespaces -/

/-- The table of an entity lies in a namespace and the database has none. -/
def NamespaceRefused (database : Database) (entity : Entity) (error : SchemaError) : Prop :=
  database.supportsNamespaces = false ∧
    ∃ name, entity.namespaceName? = some name ∧ name ≠ "" ∧
      error = .unsupportedFeature database.display ("namespace \"" ++ name ++ "\"")

/-- A namespace is refused when there is one and the database has none. -/
theorem discoverNamespace_eq_error_iff
    {database : Database}
    {known : Namespaces}
    {entity : Entity}
    {error : SchemaError} :
    discoverNamespace database known entity.namespaceName? = .error error ↔
      NamespaceRefused database entity error := by
  rw [NamespaceRefused]
  cases entity.namespaceName? with
  | none =>
      simp [discoverNamespace]
  | some name =>
      by_cases empty : name = ""
      · simp [discoverNamespace, empty]
      · by_cases supported : database.supportsNamespaces = true
        · by_cases already : name ∈ known
          · simp [discoverNamespace, empty, supported, already]
          · simp [discoverNamespace, empty, supported, already]
        · simp only [discoverNamespace, String.isEmpty_iff, empty, supported]
          simp [empty, eq_comm]

namespace Plan

variable {model : Model} {database : Database}

/-! ## Units -/

/-- Units are lacking for a namespace or for a type. -/
theorem unitsOf_fails
    (wellFormed : model.WellFormed)
    {known : Namespaces}
    {entities : List Entity}
    (declared : entities ⊆ model.entities) :
    FailsOnly
      (fun error =>
        (∃ entity ∈ entities, NamespaceRefused database entity error) ∨
          model.LacksType database error)
      (unitsOf model database known entities) := by
  induction entities generalizing known with
  | nil =>
      exact failsOnly_ok
  | cons entity later inductionHypothesis =>
      obtain ⟨entityMember, laterDeclared⟩ := List.cons_subset.mp declared
      simp only [unitsOf]
      split
      · split
        · split
          · exact failsOnly_ok
          · next error failed =>
              apply failsOnly_error
              rcases inductionHypothesis laterDeclared error failed with
                ⟨other, otherMember, refused⟩ | untyped
              · exact .inl ⟨other, List.mem_cons_of_mem entity otherMember, refused⟩
              · exact .inr untyped
        · next error failed =>
            exact failsOnly_error (.inr (ofEntity_fails wellFormed entityMember error failed))
      · next error failed =>
          have refused := discoverNamespace_eq_error_iff.mp failed
          exact failsOnly_error (.inl ⟨entity, List.mem_cons_self, refused⟩)

/-- Without namespaces in the database, entities with units lie in none. -/
theorem name_eq_empty_of_unitsOf
    (notSupported : database.supportsNamespaces = false)
    {known : Namespaces}
    {entities : List Entity}
    {result : Namespaces × List (TableUnit (List Statement))}
    (made : unitsOf model database known entities = .ok result)
    {entity : Entity}
    (member : entity ∈ entities)
    {name : String}
    (lies : entity.namespaceName? = some name) :
    name = "" := by
  induction entities generalizing known result with
  | nil =>
      cases member
  | cons first later inductionHypothesis =>
      simp only [unitsOf] at made
      split at made
      · next discovered =>
          rcases List.mem_cons.mp member with isFirst | inLater
          · subst isFirst
            by_contra given
            have refused : discoverNamespace database known entity.namespaceName? = .error _ :=
              discoverNamespace_eq_error_iff.mpr ⟨notSupported, name, lies, given, rfl⟩
            rw [discovered] at refused
            cases refused
          · split at made
            · split at made
              · next laterMade =>
                  exact inductionHypothesis laterMade inLater
              · cases made
            · cases made
      · cases made

/-- The units of a well-formed model are there when its namespaces and types are. -/
theorem exists_unitsOf_iff
    (wellFormed : model.WellFormed) :
    (∃ result, unitsOf model database [] model.entities = .ok result) ↔
      (database.supportsNamespaces = true ∨
        ∀ entity ∈ model.entities, ∀ name, entity.namespaceName? = some name → name = "") ∧
        ∀ entity ∈ model.entities, ∀ field ∈ entity.fields,
          ∃ name, model.columnType database field = .ok name := by
  constructor
  · intro ⟨⟨namespaces, units⟩, made⟩
    constructor
    · rw [or_iff_not_imp_left, Bool.not_eq_true]
      intro notSupported entity member name lies
      exact name_eq_empty_of_unitsOf notSupported made member lies
    · intro entity entityMember field fieldMember
      obtain ⟨related, _⟩ := unitOf_of_unitsOf made
      obtain ⟨unit, _, unitOf⟩ := exists_right_of_forall₂ related entityMember
      exact unitOf.exists_columnType fieldMember
  · intro ⟨namespaces, typed⟩
    -- each cause that units can be lacking for is ruled out by an assumption
    apply FailsOnly.exists_ok
    intro error failed
    rcases unitsOf_fails wellFormed (List.Subset.refl _) error failed with
      ⟨entity, member, notSupported, name, lies, given, _⟩ |
        ⟨entity, entityMember, field, fieldMember, untyped⟩
    · rcases namespaces with supported | inNone
      · rw [supported] at notSupported
        cases notSupported
      · exact given (inNone entity member name lies)
    · obtain ⟨name, known⟩ := typed entity entityMember field fieldMember
      rw [known] at untyped
      cases untyped

/-- A well-formed model has a plan when its units are there and can be put in order. -/
theorem exists_ofModel_iff
    (wellFormed : model.WellFormed) :
    (∃ plan, ofModel model database = .ok plan) ↔
      (∃ result, unitsOf model database [] model.entities = .ok result) ∧
        ¬ model.ReferenceCycle := by
  have valid : model.validate = .ok () := Model.validate_eq_ok_iff.mpr wellFormed
  have accepted : (Report.ofModel model).toResult = .ok () := by
    rw [Report.toResult, require_eq_ok_iff]
    exact wellFormed.report_valid
  constructor
  · rintro ⟨plan, made⟩
    obtain ⟨_, _, ⟨units, unitsMade, ordered⟩, _⟩ := ofModel_eq_ok_iff.mp made
    have related := (unitOf_of_unitsOf unitsMade).1
    refine ⟨⟨(plan.namespaces, units), unitsMade⟩, ?_⟩
    exact (exists_order_iff_not_referenceCycle wellFormed related).mp ⟨plan.units, ordered⟩
  · rintro ⟨⟨⟨namespaces, units⟩, unitsMade⟩, noCycle⟩
    have related := (unitOf_of_unitsOf unitsMade).1
    obtain ⟨ordered, orderedMade⟩ :=
      (exists_order_iff_not_referenceCycle wellFormed related).mpr noCycle
    let plan : Plan :=
      { namespaces
        units := ordered
        warnings := (Report.ofModel model).warnings.map ReportWarning.display }
    exact
      ⟨plan, ofModel_eq_ok_iff.mpr ⟨valid, accepted, ⟨units, unitsMade, orderedMade⟩, rfl⟩⟩

/--
A well-formed model has a plan if another one has that declares all of its
namespaces and fields, knows no type that is lacking here, and leaves out no
reference.
-/
theorem exists_ofModel_of_covering
    {other : Model}
    (planned : ∃ plan, ofModel model database = .ok plan)
    (otherFormed : other.WellFormed)
    (covered : ∀ entity ∈ other.entities, ∃ before ∈ model.entities,
      entity.namespaceName? = before.namespaceName? ∧ entity.fields = before.fields)
    (typed : ∀ field name,
      model.columnType database field = .ok name → other.columnType database field = .ok name)
    (refers : ∀ source target, other.RefersTo source target → model.RefersTo source target) :
    ∃ plan, ofModel other database = .ok plan := by
  have wellFormed := wellFormed_of_planned planned
  rw [exists_ofModel_iff wellFormed, exists_unitsOf_iff wellFormed] at planned
  rw [exists_ofModel_iff otherFormed, exists_unitsOf_iff otherFormed]
  obtain ⟨⟨namespaces, allTyped⟩, noCycle⟩ := planned
  refine ⟨⟨?_, ?_⟩, fun cycle => noCycle (cycle.mono refers)⟩
  · apply namespaces.imp_right
    intro inNone entity member
    obtain ⟨before, beforeMember, sameNamespace, _⟩ := covered entity member
    rw [sameNamespace]
    exact inNone before beforeMember
  · intro entity member field fieldMember
    obtain ⟨before, beforeMember, _, sameFields⟩ := covered entity member
    obtain ⟨name, named⟩ := allTyped before beforeMember field (sameFields ▸ fieldMember)
    exact ⟨name, typed field name named⟩

end Plan

/-! ## Scripts -/

/-- The parts of an entity's table that cannot fail on their own. -/
structure TableUnit.PartsSucceed (model : Model) (database : Database) (entity : Entity) :
    Prop where
  uniques : ∃ constraints, uniqueConstraintsOf entity = .ok constraints
  indexes : ∃ indexes, indexesOf entity = .ok indexes
  foreignKeys : ∀ field ∈ entity.fields, ∃ key?, foreignKey? model entity field = .ok key?
  defaults : ∀ field ∈ entity.fields, ∃ literal, shownDefault database field = .ok literal
  /-- A join table fails with the type of a field only. -/
  joinTables :
    ∀ error, joinTablesOf model database entity = .error error → model.LacksType database error

/-- A script is written when there is a plan. -/
theorem Script.exists_generate_iff_exists_ofModel
    {model : Model}
    {target : Target} :
    (∃ script, Script.generate model target = .ok script) ↔
      ∃ plan, Plan.ofModel model target.database = .ok plan := by
  simp only [generate]
  cases Plan.ofModel model target.database <;> simp

/--
The script of a valid model is written exactly when its entities lie in no
namespace or the database has namespaces, all fields have types, and foreign
keys lead from no table to another one and back.  Nothing else in its tables
can fail.
-/
theorem exists_generate_iff
    {model : Model}
    {target : Target}
    (valid : model.validate = .ok ()) :
    ((∃ script, Script.generate model target = .ok script) ↔
      (target.database.supportsNamespaces = true ∨
        ∀ entity ∈ model.entities, ∀ name, entity.namespaceName? = some name → name = "") ∧
        (∀ entity ∈ model.entities, ∀ field ∈ entity.fields,
          ∃ name, model.columnType target.database field = .ok name) ∧
        ¬ model.ReferenceCycle) ∧
      ∀ entity ∈ model.entities, PartsSucceed model target.database entity := by
  have wellFormed := Model.validate_eq_ok_iff.mp valid
  constructor
  · rw [Script.exists_generate_iff_exists_ofModel, Plan.exists_ofModel_iff wellFormed,
      Plan.exists_unitsOf_iff wellFormed, and_assoc]
  · intro entity member
    have entityFormed := wellFormed.entityFormed member
    exact {
      uniques := exists_uniqueConstraintsOf entityFormed
      indexes := exists_indexesOf entityFormed
      foreignKeys := fun _ _ => exists_foreignKey? wellFormed member
      defaults := fun _ _ => exists_shownDefault
      joinTables := joinTablesOf_fails wellFormed member }

/-- A league has a script exactly when none of the three obstacles is there. -/
theorem exists_generate_iff_leagueModel :
    leagueModel.validate = .ok () ∧
      ((∃ script, Script.generate leagueModel Target.standard = .ok script) ↔
        (Target.standard.database.supportsNamespaces = true ∨
          ∀ entity ∈ leagueModel.entities, ∀ name,
            entity.namespaceName? = some name → name = "") ∧
          (∀ entity ∈ leagueModel.entities, ∀ field ∈ entity.fields,
            ∃ name, leagueModel.columnType Target.standard.database field = .ok name) ∧
          ¬ leagueModel.ReferenceCycle) ∧
        ∀ entity ∈ leagueModel.entities,
          PartsSucceed leagueModel Target.standard.database entity := by
  exact ⟨leagueModel_valid, exists_generate_iff leagueModel_valid⟩

end SchemaScript
