import SchemaScript.Proofs.Script.Statements

/-!
# Scripts with and without guards

A safe script passes over what exists already.  It has the statements of the
script that does not, one by one, with a guard after the words that open a
statement, and nothing else sets the two apart: which indexes are the same is
told from their statements, and these are the same with guards and without.
-/

namespace SchemaScript

open Sql TableUnit

/-! ## Places of guards -/

/-- What a table's statement says after the guard. -/
def Sql.TableDefinition.afterGuard (table : TableDefinition) (database : Database) : String :=
  database.quoteTable table.id ++ " (\n    " ++ ",\n    ".intercalate (table.lines database) ++
    "\n)" ++ database.tableSuffix ++ table.comment ++ ";"

/-- A table is written as its opening, the guard and what follows the guard. -/
theorem Sql.TableDefinition.sql_eq
    {table : TableDefinition}
    {target : Target} :
    table.sql target = "CREATE TABLE " ++ (target.guard ++ table.afterGuard target.database) := by
  unfold sql afterGuard
  simp only [String.append_assoc]

/-- The words that open an index's statement. -/
def Sql.IndexDefinition.opening (index : IndexDefinition) : String :=
  if index.unique then "CREATE UNIQUE INDEX " else "CREATE INDEX "

/-- What an index's statement says after the guard. -/
def Sql.IndexDefinition.afterGuard (index : IndexDefinition) (database : Database) : String :=
  database.quote index.name ++ " ON " ++ database.quoteTable index.table ++ " (" ++
    database.quoteList index.columns ++ ");"

/-- An index is written as its opening, the guard and what follows the guard. -/
theorem Sql.IndexDefinition.sql_eq
    {index : IndexDefinition}
    {target : Target} :
    index.sql target =
      index.opening ++ (target.indexGuard ++ index.afterGuard target.database) := by
  have opens :
      index.opening = "CREATE " ++ (if index.unique then "UNIQUE " else "") ++ "INDEX " := by
    simp only [opening]
    split <;> simp
  unfold sql sqlOn afterGuard
  simp only [opens, String.append_assoc]

/-- A statement that comments says so in its first words. -/
theorem Sql.CommentOn.exists_eq
    {database : Database}
    {table text : String}
    (comments : CommentOn database table text) :
    ∃ rest, text = "COMMENT ON " ++ rest := by
  have onColumn : "COMMENT ON COLUMN " = "COMMENT ON " ++ "COLUMN " := by simp
  have onTable : "COMMENT ON TABLE " = "COMMENT ON " ++ "TABLE " := by simp
  rcases comments with ⟨column, said, rfl⟩ | ⟨said, rfl⟩
  · unfold CommentQueue.columnStatement
    rw [onColumn]
    simp only [String.append_assoc, -String.reduceAppend]
    exact ⟨_, rfl⟩
  · unfold CommentQueue.tableStatement
    rw [onTable]
    simp only [String.append_assoc, -String.reduceAppend]
    exact ⟨_, rfl⟩

/-! ## Statements -/

/-- A statement without its guard, and the same statement in a safe script. -/
inductive GuardedForm (database : Database) : String → String → Prop where
  | creation
      {opening rest : String}
      (opens : opening ∈ ["CREATE SCHEMA ", "CREATE TABLE "]) :
      GuardedForm database (opening ++ rest) (opening ++ "IF NOT EXISTS " ++ rest)
  | index
      {opening rest : String}
      (opens : opening ∈ ["CREATE INDEX ", "CREATE UNIQUE INDEX "])
      (notMySQL : database ≠ .mySQL) :
      GuardedForm database (opening ++ rest) (opening ++ "IF NOT EXISTS " ++ rest)
  /-- MySQL knows no guards of indexes. -/
  | unguardedIndex
      {opening rest : String}
      (opens : opening ∈ ["CREATE INDEX ", "CREATE UNIQUE INDEX "])
      (mySQL : database = .mySQL) :
      GuardedForm database (opening ++ rest) (opening ++ rest)
  | comment
      {rest : String} :
      GuardedForm database ("COMMENT ON " ++ rest) ("COMMENT ON " ++ rest)

namespace GuardedForm

variable {database : Database}

/-- What creates a namespace or table has its guard after the words that open it. -/
theorem of_guard
    {opening rest bare guarded : String}
    (opens : opening ∈ ["CREATE SCHEMA ", "CREATE TABLE "])
    (bareWritten : bare = opening ++ (Target.guard { database, safe := false } ++ rest))
    (guardedWritten : guarded = opening ++ (Target.guard { database, safe := true } ++ rest)) :
    GuardedForm database bare guarded := by
  simp only [Target.guard, if_true, ← String.append_assoc] at guardedWritten
  simp only [Target.guard, Bool.false_eq_true, if_false, String.empty_append] at bareWritten
  rw [bareWritten, guardedWritten]
  exact .creation opens

/-- What creates an index has its guard there as well, unless the database knows none. -/
theorem of_indexGuard
    {opening rest bare guarded : String}
    (opens : opening ∈ ["CREATE INDEX ", "CREATE UNIQUE INDEX "])
    (bareWritten : bare = opening ++ (Target.indexGuard { database, safe := false } ++ rest))
    (guardedWritten : guarded = opening ++ (Target.indexGuard { database, safe := true } ++ rest)) :
    GuardedForm database bare guarded := by
  simp only [Target.indexGuard, Bool.false_and, Bool.false_eq_true, if_false,
    String.empty_append] at bareWritten
  simp only [Target.indexGuard, Bool.true_and] at guardedWritten
  rw [bareWritten, guardedWritten]
  by_cases mySQL : database = .mySQL
  · have unguarded : database.guardsIndexes = false := by
      rw [mySQL]
      rfl
    simp only [unguarded, Bool.false_eq_true, if_false, String.empty_append]
    exact .unguardedIndex opens mySQL
  · have guards : database.guardsIndexes = true := by
      cases database with
      | mySQL => contradiction
      | postgreSQL => rfl
      | sqlite => rfl
    simp only [guards, if_true, ← String.append_assoc]
    exact .index opens mySQL

/-- A statement has its guard after the words that open it, if these take one. -/
theorem sql
    {statement : Statement}
    (comments :
      ∀ text, statement = .comment text → ∃ table, CommentOn database table text) :
    GuardedForm database
      (statement.sql { database, safe := false }) (statement.sql { database, safe := true }) := by
  cases statement with
  | createNamespace name =>
      have written
          (target : Target) :
          (Statement.createNamespace name).sql target =
            "CREATE SCHEMA " ++ (target.guard ++ (target.database.quote name ++ ";")) := by
        unfold Statement.sql
        simp only [String.append_assoc]
      exact of_guard List.mem_cons_self (written _) (written _)
  | createTable table =>
      exact of_guard (List.mem_cons_of_mem _ List.mem_cons_self) table.sql_eq table.sql_eq
  | createIndex index =>
      have opens : index.opening ∈ ["CREATE INDEX ", "CREATE UNIQUE INDEX "] := by
        rw [IndexDefinition.opening]
        split <;> simp
      exact of_indexGuard opens index.sql_eq index.sql_eq
  | comment text =>
      obtain ⟨table, comments⟩ := comments text rfl
      obtain ⟨rest, rfl⟩ := comments.exists_eq
      exact .comment

end GuardedForm

namespace Plan.PlanOf

variable {model : Model} {database : Database} {plan : Plan}

/-- A statement of a plan that comments does so on a table or on a column of it. -/
theorem exists_commentOn
    (planOf : PlanOf model database plan)
    {text : String}
    (member : .comment text ∈ plan.statements) :
    ∃ table, CommentOn database table text := by
  rcases planOf.statement_cases member with
    ⟨_, _, isNamespace⟩ | ⟨_, _, _, unitOf, inUnit⟩ | ⟨_, _, _, _, _, joinOf, inJoin⟩
  · cases isNamespace
  · exact ⟨_, unitOf.tableBlock.commented text inUnit⟩
  · exact ⟨_, joinOf.tableBlock.commented text inJoin⟩

/-- The statements of a plan have their guarded forms, one by one. -/
theorem guardedForms
    (planOf : PlanOf model database plan) :
    List.Forall₂ (GuardedForm database)
      (plan.statements.map (Statement.sql { database, safe := false }))
      (plan.statements.map (Statement.sql { database, safe := true })) := by
  rw [List.forall₂_map_left_iff, List.forall₂_map_right_iff, List.forall₂_same]
  intro statement member
  apply GuardedForm.sql
  rintro text rfl
  exact planOf.exists_commentOn member

/-- The indexes of a unit are those that its entity asks for, each text once. -/
theorem indexes_of_unit
    (planOf : PlanOf model database plan)
    {unit : TableUnit (List Statement)}
    (member : unit ∈ plan.units) :
    ∃ entity ∈ model.entities, unit.id = entity.tableId ∧
      ∃ requested, requestedIndexes entity = .ok requested ∧
        ∀ target, (unit.body.filterMap Statement.index?).map (·.sql target) =
          (requested.map (·.sql target)).eraseDups := by
  obtain ⟨entity, entityMember, unitOf⟩ := planOf.entity_of_unit member
  exact ⟨entity, entityMember, unitOf.id, sql_of_indexesOf unitOf.indexes⟩

end Plan.PlanOf

/-! ## Scripts -/

/--
Two scripts for a plan have the same contents and differ in guards only.  The
indexes of an entity are written as it asks for them, each text once, whether
there are guards in the texts or not.
-/
structure DifferInGuards (model : Model) (database : Database) (plan : Plan)
    (bare guarded : Script) : Prop where
  about : guarded.modelName = bare.modelName ∧ guarded.database = bare.database
  namespaces : guarded.namespaces = bare.namespaces
  tables : guarded.tables = bare.tables
  joinTables : guarded.joinTables = bare.joinTables
  warnings : guarded.warnings = bare.warnings
  bareStatements :
    bare.sql =
      "\n".intercalate (plan.statements.map (Statement.sql { database, safe := false }))
  guardedStatements :
    guarded.sql =
      "\n".intercalate (plan.statements.map (Statement.sql { database, safe := true }))
  forms :
    List.Forall₂ (GuardedForm database)
      (plan.statements.map (Statement.sql { database, safe := false }))
      (plan.statements.map (Statement.sql { database, safe := true }))
  indexes :
    ∀ unit ∈ plan.units, ∃ entity ∈ model.entities, unit.id = entity.tableId ∧
      ∃ requested, requestedIndexes entity = .ok requested ∧
        ∀ target, (unit.body.filterMap Statement.index?).map (·.sql target) =
          (requested.map (·.sql target)).eraseDups

/--
A script without guards is written exactly when one with guards is, and
otherwise both are refused with the same error.  The two scripts have the same
namespaces, tables, join tables and warnings, and their statements differ one
by one in the guard only.
-/
theorem generate_guarded
    {model : Model}
    {database : Database} :
    Agree
      (fun bare guarded =>
        ∃ plan, Plan.ofModel model database = .ok plan ∧
          DifferInGuards model database plan bare guarded)
      (Script.generate model { database, safe := false })
      (Script.generate model { database, safe := true }) := by
  simp only [Script.generate]
  cases made : Plan.ofModel model database with
  | error error =>
      exact .errors error
  | ok plan =>
      have planOf := Plan.planOf_of_ofModel made
      have written (safe : Bool) :
          (Script.ofPlan model.info.name { database, safe } plan).sql =
            "\n".intercalate (plan.statements.map (Statement.sql { database, safe })) :=
        @composeScript_eq_statements model { database, safe } plan planOf
      refine .results ⟨plan, rfl, ?_⟩
      exact {
        about := ⟨rfl, rfl⟩
        namespaces := rfl
        tables := rfl
        joinTables := rfl
        warnings := rfl
        bareStatements := written false
        guardedStatements := written true
        forms := planOf.guardedForms
        indexes := fun _ member => planOf.indexes_of_unit member }

end SchemaScript
