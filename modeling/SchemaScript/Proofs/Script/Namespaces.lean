import Mathlib.Data.List.Induction
import SchemaScript.ModelFile
import SchemaScript.Proofs.Entity.Completion
import SchemaScript.Proofs.Plan
import SchemaScript.Proofs.TableUnit.IndexRequests

/-!
# The namespaces of a script

A script creates the namespaces that its tables lie in, each where it first
occurs among the entities.  A model lists the namespaces that its entities name.
Both lists are the same unless an entity names the empty namespace, which
stands for none: the model lists it, although no table lies in it.  A model
that has been normalized names no empty namespace.
-/

namespace SchemaScript

/-! ## Repetitions -/

section Repetitions

variable {α : Type} [DecidableEq α]

/-- Repetitions are erased alike before and after items are left out. -/
theorem eraseDups_filter
    (passes : α → Bool)
    (items : List α) :
    (items.filter passes).eraseDups = items.eraseDups.filter passes := by
  induction items using List.reverseRecOn with
  | nil =>
      rfl
  | append_singleton earlier item inductionHypothesis =>
      rw [List.filter_append, eraseDups_concat]
      by_cases itemPasses : passes item = true
      · rw [List.filter_cons_of_pos itemPasses, List.filter_nil, eraseDups_concat,
          inductionHypothesis]
        by_cases already : item ∈ earlier <;> simp [already, itemPasses]
      · rw [List.filter_cons_of_neg itemPasses, List.filter_nil, List.append_nil,
          inductionHypothesis]
        by_cases already : item ∈ earlier <;> simp [already, itemPasses]

end Repetitions

/-! ## Namespaces of tables and of entities -/

/-- The namespaces that are met with some tables are those of the tables, each once. -/
theorem foldl_meetNamespace
    (ids : List TableId) :
    ids.foldl meetNamespace [] = (ids.filterMap (·.namespaceName?)).eraseDups := by
  induction ids using List.reverseRecOn with
  | nil =>
      rfl
  | append_singleton earlier id inductionHypothesis =>
      rw [List.foldl_append, inductionHypothesis, List.filterMap_append, List.foldl_cons,
        List.foldl_nil, meetNamespace]
      cases lies : id.namespaceName? with
      | none =>
          simp [lies]
      | some name =>
          rw [List.filterMap_cons_some lies, List.filterMap_nil, eraseDups_concat]
          simp only [List.contains_eq_mem, List.mem_eraseDups, decide_eq_true_eq]

/-- Tables lie in the namespaces that entities name, the empty one left out. -/
theorem Model.tableNamespaces_eq
    (model : Model) :
    model.entities.filterMap (·.tableId.namespaceName?) =
      (model.entities.filterMap (·.namespaceName?)).filter (· ≠ "") := by
  rw [List.filter_filterMap]
  apply List.filterMap_congr
  intro entity _
  have leftOut (name : String) : (!name.isEmpty) = decide (name ≠ "") := by
    by_cases isEmpty : name = "" <;> simp [isEmpty]
  simp only [Entity.tableId, TableId.within, leftOut]

/-- A plan has the namespaces that the model lists, the empty one left out. -/
theorem Plan.namespaces_eq_filter
    {model : Model}
    {database : Database}
    {plan : Plan}
    (made : ofModel model database = .ok plan) :
    plan.namespaces = model.namespaces.filter (· ≠ "") := by
  rw [namespaces_eq made, foldl_meetNamespace, List.filterMap_map]
  exact (congrArg List.eraseDups model.tableNamespaces_eq).trans (eraseDups_filter _ _)

/-- A completed entity does not name the empty namespace. -/
theorem Entity.Completes.namespaceName_ne_empty
    {entity completed : Entity}
    (completes : completed.Completes entity) :
    completed.namespaceName? ≠ some "" := by
  rw [completes.namespaceName]
  split
  · exact Option.some_ne_none "" |>.symm
  · assumption

/-- The entities of a normalized model do not name the empty namespace. -/
theorem Model.namespaceName_ne_empty_of_normalized
    {author model : Model}
    (normal : author.normalized = .ok model)
    {entity : Entity}
    (member : entity ∈ model.entities) :
    entity.namespaceName? ≠ some "" := by
  have succeeds : author.normalize = (model, .ok ()) := by
    rw [normalized] at normal
    split at normal
    · next complete same =>
        cases normal
        exact same
    · cases normal
  obtain ⟨given, _, givenCompleted⟩ :=
    exists_left_of_forall₂ (normalize_eq_ok_iff.mp succeeds).2 member
  obtain ⟨_, rfl⟩ := Entity.normalize_eq_ok_iff.mp givenCompleted
  exact Entity.complete_completes.namespaceName_ne_empty

/-! ## Scripts -/

/--
A script has the namespaces that tables lie in, each where it first occurs
among the entities.  These are the namespaces that the model lists, the empty
one left out, so that both lists are the same exactly when no entity names the
empty namespace; in a normalized model none does.
-/
theorem generate_namespaces
    {model : Model}
    {target : Target}
    {script : Script}
    (generated : Script.generate model target = .ok script) :
    FirstOccurrences (model.entities.filterMap (·.tableId.namespaceName?)) script.namespaces ∧
      script.namespaces = model.namespaces.filter (· ≠ "") ∧
      (script.namespaces = model.namespaces ↔
        ∀ entity ∈ model.entities, entity.namespaceName? ≠ some "") ∧
      ∀ author : Model, author.normalized = .ok model → script.namespaces = model.namespaces := by
  obtain ⟨plan, made, written⟩ := Script.plan_of_generate generated
  have filtered : script.namespaces = model.namespaces.filter (· ≠ "") := by
    rw [written]
    exact Plan.namespaces_eq_filter made
  have same_iff :
      script.namespaces = model.namespaces ↔
        ∀ entity ∈ model.entities, entity.namespaceName? ≠ some "" := by
    rw [filtered, List.filter_eq_self]
    simp only [Model.namespaces, List.mem_eraseDups, List.mem_filterMap, decide_eq_true_eq]
    constructor
    · intro named entity member isEmpty
      exact named "" ⟨entity, member, isEmpty⟩ rfl
    · rintro noneEmpty name ⟨entity, member, names⟩ rfl
      exact noneEmpty entity member names
  refine ⟨?_, filtered, same_iff, ?_⟩
  · rw [firstOccurrences_iff, written]
    change plan.namespaces = _
    rw [Plan.namespaces_eq made, foldl_meetNamespace, List.filterMap_map]
    rfl
  · intro author normal
    exact same_iff.mpr fun _ => Model.namespaceName_ne_empty_of_normalized normal

/-- The script of a league lists its namespaces as the model does. -/
theorem generate_namespaces_leagueModel :
    ∃ script, Script.generate leagueModel Target.standard = .ok script ∧
      FirstOccurrences (leagueModel.entities.filterMap (·.tableId.namespaceName?))
        script.namespaces ∧
      script.namespaces = leagueModel.namespaces.filter (· ≠ "") ∧
      (script.namespaces = leagueModel.namespaces ↔
        ∀ entity ∈ leagueModel.entities, entity.namespaceName? ≠ some "") ∧
      ∀ author : Model,
        author.normalized = .ok leagueModel → script.namespaces = leagueModel.namespaces := by
  obtain ⟨script, generated⟩ := exists_generate_leagueModel
  exact ⟨script, generated, generate_namespaces generated⟩

/-- Depots, which name the empty namespace; the model has not been normalized. -/
def depotModel : Model where
  info := .named "Depots"
  entities := [{ Entity.named "Depot" with namespaceName? := some "" }]

/-- The model lists the empty namespace, which its script does not create. -/
theorem depotModel_namespaces_differ :
    ∃ script, Script.generate depotModel Target.standard = .ok script ∧
      script.namespaces = [] ∧ depotModel.namespaces = [""] := by
  have generates : ∃ script, Script.generate depotModel Target.standard = .ok script := by
    apply exists_of_isOk
    decide +kernel
  obtain ⟨script, generated⟩ := generates
  obtain ⟨plan, made, written⟩ := Script.plan_of_generate generated
  refine ⟨script, generated, ?_, rfl⟩
  rw [written]
  exact Plan.namespaces_eq made

end SchemaScript
