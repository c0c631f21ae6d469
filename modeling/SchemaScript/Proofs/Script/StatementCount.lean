import Mathlib.Algebra.BigOperators.Group.List.Basic
import SchemaScript.Proofs.Script.Lines
import SchemaScript.Proofs.Script.QuotedNames
import SchemaScript.Proofs.Script.Statements
import SchemaScript.Proofs.TableUnit.Semicolons
import SchemaScript.Script.Summary

/-!
# Counting statements

The statements of a script are counted by its lines that end in a semicolon.
This gives their number unless a statement has such a line before its end,
which takes a semicolon in a text that the model hands on: in a name, a
description or a default.
-/

namespace SchemaScript

open Sql TableUnit

/-! ## Kinds of statements -/

/-- The namespace that a statement creates. -/
def Sql.Statement.namespace? : Statement → Option String
  | .createNamespace name => some name
  | _ => none

/-- The comment that a statement is. -/
def Sql.Statement.comment? : Statement → Option String
  | .comment text => some text
  | _ => none

/-- Statements are of four kinds. -/
theorem length_eq_of_kinds
    (statements : List Statement) :
    statements.length =
      (statements.filterMap Statement.namespace?).length +
        (statements.filterMap Statement.table?).length +
        (statements.filterMap Statement.index?).length +
        (statements.filterMap Statement.comment?).length := by
  induction statements with
  | nil =>
      rfl
  | cons statement later inductionHypothesis =>
      cases statement <;>
        simp [List.filterMap_cons, Statement.namespace?, Statement.table?, Statement.index?,
          Statement.comment?, inductionHypothesis] <;>
        omega

namespace Plan

/-- The comments of a plan, in their order. -/
def comments (plan : Plan) : List String :=
  plan.statements.filterMap Statement.comment?

namespace PlanOf

variable {model : Model} {database : Database} {plan : Plan}

/-- The statements of a creation create just what the creation does. -/
theorem created_by_statements
    (planOf : PlanOf model database plan)
    {creation : Creation}
    (member : creation ∈ plan.creations) :
    creation.statements.filterMap Statement.namespace? = creation.object.getLeft?.toList ∧
      (creation.statements.filterMap Statement.table?).map (·.id) =
        creation.object.getRight?.toList := by
  have ofBlock
      {id : TableId}
      {body : List Statement}
      (tableBlock : TableBlock database id body) :
      body.filterMap Statement.namespace? = [] ∧
        (body.filterMap Statement.table?).map (·.id) = [id] := by
    obtain ⟨table, rfl, indexes, comments, rfl⟩ := tableBlock.created
    constructor
    · simp only [List.filterMap_eq_nil_iff, List.mem_cons, List.mem_append, List.mem_map]
      rintro _ (rfl | ⟨_, _, rfl⟩ | ⟨_, _, rfl⟩) <;> rfl
    · simp [Statement.table?, Function.comp_def]
  rcases planOf.creation_cases member with
    ⟨name, _, rfl⟩ | ⟨entity, entityMember, unit, unitOf, rfl⟩ |
    ⟨owner, ownerMember, relationship, joins, join, joinOf, rfl⟩
  · exact ⟨rfl, rfl⟩
  · exact ofBlock unitOf.tableBlock
  · exact ofBlock joinOf.tableBlock

/-- A plan creates its namespaces, each with a statement. -/
theorem filterMap_namespace?_statements
    (planOf : PlanOf model database plan) :
    plan.statements.filterMap Statement.namespace? = plan.namespaces := by
  calc
    plan.statements.filterMap Statement.namespace? =
        plan.creations.flatMap fun creation => creation.object.getLeft?.toList := by
      rw [statements_eq_flatMap, List.filterMap_flatMap]
      exact List.flatMap_congr fun _ member => (planOf.created_by_statements member).1
    _ = (plan.creations.map Creation.object).filterMap Sum.getLeft? := by
      rw [List.filterMap_eq_flatMap_toList, List.flatMap_map]
    _ = plan.namespaces := by
      rw [map_object_creations]
      simp [List.filterMap_map, Function.comp_def]

/-- A plan creates a table for each entity and each join table, in this order. -/
theorem tableDefinitions_ids
    (planOf : PlanOf model database plan) :
    plan.tableDefinitions.map (·.id) = plan.tables ++ plan.joinTables := by
  calc
    plan.tableDefinitions.map (·.id) =
        plan.creations.flatMap fun creation => creation.object.getRight?.toList := by
      rw [tableDefinitions, statements_eq_flatMap, List.filterMap_flatMap, List.map_flatMap]
      exact List.flatMap_congr fun _ member => (planOf.created_by_statements member).2
    _ = (plan.creations.map Creation.object).filterMap Sum.getRight? := by
      rw [List.filterMap_eq_flatMap_toList, List.flatMap_map]
    _ = plan.tables ++ plan.joinTables := by
      rw [map_object_creations]
      simp [List.filterMap_map, Function.comp_def]

/-- A plan has a statement for each namespace and each table, and those for indexes and comments. -/
theorem length_statements
    (planOf : PlanOf model database plan) :
    plan.statements.length =
      plan.namespaces.length + plan.tables.length + plan.joinTables.length +
        plan.indexes.length + plan.comments.length := by
  have tables : plan.tableDefinitions.length = plan.tables.length + plan.joinTables.length := by
    rw [← List.length_map (·.id), planOf.tableDefinitions_ids, List.length_append]
  have kinds := length_eq_of_kinds plan.statements
  rw [planOf.filterMap_namespace?_statements] at kinds
  change plan.statements.length = _ + plan.tableDefinitions.length + plan.indexes.length +
    plan.comments.length at kinds
  omega

end PlanOf

/-! ## Lines of statements -/

/-- Every statement of a plan ends in a semicolon. -/
theorem getLast?_sql
    {model : Model}
    {target : Target}
    {plan : Plan}
    (made : ofModel model target.database = .ok plan)
    {statement : Statement}
    (member : statement ∈ plan.statements) :
    (statement.sql target).toList.getLast? = some ';' := by
  obtain ⟨_, madeOf, _⟩ := holdsNames made member
  rw [madeOf.sql_eq]
  simp

/-- Without semicolons in the model, a statement has the one at its end only. -/
theorem endings_sql_eq_one
    {model : Model}
    {target : Target}
    {plan : Plan}
    (made : ofModel model target.database = .ok plan)
    (free : model.WithoutSemicolons)
    {statement : Statement}
    (member : statement ∈ plan.statements) :
    Script.endings (statement.sql target) = 1 := by
  have planOf := planOf_of_ofModel made
  obtain ⟨_, madeOf, named⟩ := holdsNames made member
  have texts : statement.TextsFree := by
    rcases planOf.statement_cases member with
      ⟨name, _, rfl⟩ | ⟨entity, entityMember, unit, unitOf, inUnit⟩ |
      ⟨owner, ownerMember, relationship, joins, join, joinOf, inJoin⟩
    · trivial
    · have entityFormed := planOf.wellFormed.entityFormed entityMember
      exact unitOf.textsFree free entityFormed entityMember inUnit
    · exact joinOf.textsFree free ownerMember (List.mem_of_mem_filter joins) inJoin
  obtain ⟨body, written, bodyFree⟩ := madeOf.exists_body (free.names named) texts
  rw [written]
  exact Script.endings_eq_one bodyFree

end Plan

/-- Numbers that are positive add up to how many they are when each of them is one. -/
theorem sum_eq_length_iff
    {α : Type}
    {size : α → Nat}
    {items : List α}
    (sized : ∀ item ∈ items, 0 < size item) :
    (items.map size).sum = items.length ↔ ∀ item ∈ items, size item = 1 := by
  induction items with
  | nil =>
      simp
  | cons item later inductionHypothesis =>
      obtain ⟨itemSized, laterSized⟩ := List.forall_mem_cons.mp sized
      have atLeast : (later.map size).length ≤ (later.map size).sum := by
        apply List.length_le_sum_of_one_le
        intro number member
        obtain ⟨other, otherMember, rfl⟩ := List.mem_map.mp member
        exact laterSized other otherMember
      rw [List.length_map] at atLeast
      rw [List.map_cons, List.sum_cons, List.length_cons, List.forall_mem_cons,
        ← inductionHypothesis laterSized]
      omega

/--
A script has one statement for each namespace, each table and each join table,
and those for indexes and comments.  The count, which its summary shows, is
that of the lines in these statements that end in a semicolon, of which each
has one at least.  It is the number of statements exactly when no statement has
such a line before its end, and so whenever no name, description or default of
the model holds a semicolon.
-/
theorem generate_statementCount
    {model : Model}
    {target : Target}
    {script : Script}
    (generated : Script.generate model target = .ok script) :
    ∃ plan, Plan.ofModel model target.database = .ok plan ∧
      script = Script.ofPlan model.info.name target plan ∧
      script.sql = "\n".intercalate (plan.statements.map (Statement.sql target)) ∧
      plan.statements.length =
        script.namespaces.length + script.tables.length + script.joinTables.length +
          plan.indexes.length + plan.comments.length ∧
      (Summary.ofScript script).statements = script.statementCount ∧
      script.statementCount =
        (plan.statements.map fun statement => Script.endings (statement.sql target)).sum ∧
      (∀ statement ∈ plan.statements, 0 < Script.endings (statement.sql target)) ∧
      (script.statementCount = plan.statements.length ↔
        ∀ statement ∈ plan.statements, Script.endings (statement.sql target) = 1) ∧
      (model.WithoutSemicolons → script.statementCount = plan.statements.length) := by
  obtain ⟨plan, made, written⟩ := Script.plan_of_generate generated
  have planOf := Plan.planOf_of_ofModel made
  have composed :
      script.sql = "\n".intercalate (plan.statements.map (Statement.sql target)) := by
    rw [written]
    exact composeScript_eq_statements planOf
  have counted :
      script.statementCount =
        (plan.statements.map fun statement => Script.endings (statement.sql target)).sum := by
    rw [Script.statementCount_eq_endings, composed, Script.endings_intercalate, List.map_map]
    · rfl
    · intro text member
      obtain ⟨statement, inPlan, rfl⟩ := List.mem_map.mp member
      exact Plan.getLast?_sql made inPlan
  have positive : ∀ statement ∈ plan.statements, 0 < Script.endings (statement.sql target) :=
    fun _ member => Script.endings_pos (Plan.getLast?_sql made member)
  have right_iff :
      script.statementCount = plan.statements.length ↔
        ∀ statement ∈ plan.statements, Script.endings (statement.sql target) = 1 := by
    rw [counted]
    exact sum_eq_length_iff positive
  refine ⟨plan, made, written, composed, ?_, rfl, counted, positive, right_iff, ?_⟩
  · rw [written]
    exact planOf.length_statements
  · intro free
    exact right_iff.mpr fun _ => Plan.endings_sql_eq_one made free

/-- The statements of a guild, which has no semicolons, are counted right. -/
theorem generate_statementCount_guildModel :
    ∃ script, Script.generate guildModel Target.standard = .ok script ∧
      guildModel.WithoutSemicolons ∧
      ∃ plan, Plan.ofModel guildModel Target.standard.database = .ok plan ∧
        script = Script.ofPlan guildModel.info.name Target.standard plan ∧
        script.sql = "\n".intercalate (plan.statements.map (Statement.sql Target.standard)) ∧
        plan.statements.length =
          script.namespaces.length + script.tables.length + script.joinTables.length +
            plan.indexes.length + plan.comments.length ∧
        (Summary.ofScript script).statements = script.statementCount ∧
        script.statementCount =
          (plan.statements.map fun statement =>
            Script.endings (statement.sql Target.standard)).sum ∧
        (∀ statement ∈ plan.statements, 0 < Script.endings (statement.sql Target.standard)) ∧
        (script.statementCount = plan.statements.length ↔
          ∀ statement ∈ plan.statements, Script.endings (statement.sql Target.standard) = 1) ∧
        (guildModel.WithoutSemicolons → script.statementCount = plan.statements.length) := by
  have generates : ∃ script, Script.generate guildModel Target.standard = .ok script := by
    apply exists_of_isOk
    decide +kernel
  obtain ⟨script, generated⟩ := generates
  have free : guildModel.WithoutSemicolons := by
    decide +kernel
  exact ⟨script, generated, free, generate_statementCount generated⟩

/-- A note, whose description goes on in another line after a semicolon. -/
def noteModel : Model where
  info := .named "Notes"
  entities := [{ Entity.named "Note" with description := some "Free text;\nsee the guide" }]

/-- Two statements are written, of which three are counted. -/
theorem noteModel_statements_miscounted :
    ∃ script plan, Script.generate noteModel Target.standard = .ok script ∧
      Plan.ofModel noteModel Target.standard.database = .ok plan ∧
      plan.statements.length = 2 ∧ script.statementCount = 3 := by
  have found :
      ∃ plan ∈ (Plan.ofModel noteModel Target.standard.database).toOption,
        plan.statements.length = 2 ∧
          (Script.ofPlan noteModel.info.name Target.standard plan).statementCount = 3 := by
    decide +kernel
  obtain ⟨script, plan, generated, made, statements, counted⟩ := Script.exists_of_plan found
  obtain ⟨_, planned, written⟩ := Script.plan_of_generate generated
  rw [made, Except.ok.injEq] at planned
  subst planned
  exact ⟨script, plan, generated, made, statements, written ▸ counted⟩

end SchemaScript
