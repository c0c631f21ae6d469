import SchemaScript.Proofs.Script.Integrity
import SchemaScript.Proofs.Script.Reordering
import SchemaScript.Proofs.Script.Statements
import SchemaScript.Proofs.TableUnit.ScriptNames

/-!
# The names in a script

Every name that stands between marks in a script is one that its model gives or
one that is derived from these, and none is empty: what the model may leave
empty, such as the name of a join table or of its columns, is derived then, and
what it may not is checked before the script is written.
-/

namespace SchemaScript

open Sql TableUnit

/-- The statements of a plan hold names of the script only. -/
theorem Plan.holdsNames
    {model : Model}
    {target : Target}
    {plan : Plan}
    (made : ofModel model target.database = .ok plan)
    {statement : Statement}
    (member : statement ∈ plan.statements) :
    HoldsNames model target statement := by
  have planOf := planOf_of_ofModel made
  obtain ⟨namespacesFound, _⟩ := mem_namespaces made
  rcases planOf.statement_cases member with
    ⟨name, nameMember, rfl⟩ | ⟨entity, entityMember, unit, unitOf, inUnit⟩ |
    ⟨owner, ownerMember, relationship, joins, join, joinOf, inJoin⟩
  · obtain ⟨entity, entityMember, lies⟩ := (namespacesFound name).mp nameMember
    have named : model.ScriptName name := .space entityMember lies
    exact ⟨_, .createNamespace name, by simp [named]⟩
  · exact unitOf.holdsNames (planOf.wellFormed.entityFormed entityMember) entityMember inUnit
  · exact joinOf.holdsNames ownerMember (List.mem_of_mem_filter joins) inJoin

/--
A script is written from parts, of which those that are quoted are names of the
model or derived from these, and none of them is empty.  This holds for the
indexes that are asked for more than once as well, whose statements are
compared before they are dropped.
-/
theorem generate_quotesNames
    {model : Model}
    {target : Target}
    {script : Script}
    (generated : Script.generate model target = .ok script) :
    ∃ plan, Plan.ofModel model target.database = .ok plan ∧
      script = Script.ofPlan model.info.name target plan ∧
      script.sql = "\n".intercalate (plan.statements.map (Statement.sql target)) ∧
      (∀ statement ∈ plan.statements, ∃ parts,
        statement.MadeOf target parts ∧
          statement.sql target = write target.database parts ++ ";" ∧
          ∀ name, .name name ∈ parts → model.ScriptName name ∧ name ≠ "") ∧
      ∀ entity ∈ model.entities, ∃ requested,
        requestedIndexes entity = .ok requested ∧
          ∀ index ∈ requested, ∀ name, .name name ∈ index.parts target →
            model.ScriptName name ∧ name ≠ "" := by
  obtain ⟨plan, made, written⟩ := Script.plan_of_generate generated
  have planOf := Plan.planOf_of_ofModel made
  have wellFormed := planOf.wellFormed
  refine ⟨plan, made, written, ?_, ?_, ?_⟩
  · rw [written]
    exact composeScript_eq_statements planOf
  · intro statement member
    obtain ⟨parts, madeOf, namesAre⟩ := Plan.holdsNames made member
    refine ⟨parts, madeOf, madeOf.sql_eq, ?_⟩
    intro name inParts
    exact ⟨namesAre name inParts, (namesAre name inParts).ne_empty wellFormed⟩
  · intro entity member
    obtain ⟨_, _, unitOf⟩ := planOf.unit_of_entity member
    obtain ⟨_, _, _, found, _⟩ := unitOf.table
    obtain ⟨requested, asked, _⟩ := indexesOf_eq_ok_iff.mp found
    refine ⟨requested, asked, ?_⟩
    intro index indexMember name inParts
    have named := namesAre_of_requestedIndexes member asked indexMember name inParts
    exact ⟨named, named.ne_empty wellFormed⟩

/-- What is quoted in the script of a league are names that it should have. -/
theorem generate_quotesNames_leagueModel :
    ∃ script, Script.generate leagueModel Target.standard = .ok script ∧
      ∃ plan, Plan.ofModel leagueModel Target.standard.database = .ok plan ∧
        script = Script.ofPlan leagueModel.info.name Target.standard plan ∧
        script.sql = "\n".intercalate (plan.statements.map (Statement.sql Target.standard)) ∧
        (∀ statement ∈ plan.statements, ∃ parts,
          statement.MadeOf Target.standard parts ∧
            statement.sql Target.standard = write Target.standard.database parts ++ ";" ∧
            ∀ name, .name name ∈ parts → leagueModel.ScriptName name ∧ name ≠ "") ∧
        ∀ entity ∈ leagueModel.entities, ∃ requested,
          requestedIndexes entity = .ok requested ∧
            ∀ index ∈ requested, ∀ name, .name name ∈ index.parts Target.standard →
              leagueModel.ScriptName name ∧ name ≠ "" := by
  obtain ⟨script, generated⟩ := exists_generate_leagueModel
  exact ⟨script, generated, generate_quotesNames generated⟩

end SchemaScript
