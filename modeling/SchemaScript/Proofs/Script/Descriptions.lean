import SchemaScript.Proofs.Script.Statements
import SchemaScript.Proofs.TableUnit.Descriptions

/-!
# Descriptions in scripts

In a script for PostgreSQL the statements that follow a table and its indexes
comment on the columns of the table and then on the table.  They say what the
entity, its fields and its relationships say of themselves, with one exception:
where the description of a relationship is the empty text, nothing is said of
the column, whatever the field says.
-/

namespace SchemaScript

open Sql TableUnit

/-- What the block of an entity's table says of the entity's descriptions. -/
structure DescribedBy (model : Model) (database : Database) (entity : Entity)
    (body : List Statement) : Prop where
  /-- After the table and its indexes come comments on its columns, then that on the table. -/
  block :
    ∃ table indexes, TableOf model database entity table ∧ indexesOf entity = .ok indexes ∧
      body =
        .createTable table ::
          (indexes.map .createIndex ++
            (columnComments database entity (commented? entity) ++
              (tableComment? database entity).toList).map .comment)
  /-- The comments on columns say all that there is to say when no field is silenced. -/
  complete_iff :
    columnComments database entity (commented? entity) =
        columnComments database entity (toSay? entity) ↔
      ∀ field ∈ entity.fields, ¬ Silenced entity field
  commentsOn_iff :
    ∀ field ∈ entity.fields, ∀ text, field.description = some text → text ≠ "" →
      (CommentsOn database entity field (columnComments database entity (commented? entity)) ↔
        ¬ Silenced entity field)

/-- The unit of a well-formed entity is described statement by statement. -/
theorem TableUnit.UnitOf.describedBy
    {model : Model}
    {database : Database}
    {entity : Entity}
    {unit : TableUnit (List Statement)}
    (unitOf : UnitOf model database entity unit)
    (wellFormed : entity.WellFormed)
    (style : database.commentStyle = .statement) :
    DescribedBy model database entity unit.body := by
  obtain ⟨table, indexes, tableOf, indexesFound, _, body⟩ := unitOf.table
  rw [tableComments_of_statement wellFormed style] at body
  exact {
    block := ⟨table, indexes, tableOf, indexesFound, body⟩
    complete_iff := columnComments_eq_iff wellFormed
    commentsOn_iff := fun _ member _ describes given =>
      commentsOn_commented_iff wellFormed member describes given }

/--
In a script for PostgreSQL the comments on a table and its columns say what
the entity, its relationships and its fields say of themselves, unless the
empty description of a relationship silences a field.
-/
theorem generate_describes
    {model : Model}
    {target : Target}
    {script : Script}
    (generated : Script.generate model target = .ok script)
    (onPostgreSQL : target.database = .postgreSQL) :
    ∃ plan, Plan.ofModel model target.database = .ok plan ∧
      script = Script.ofPlan model.info.name target plan ∧
      ∀ entity ∈ model.entities, ∃ unit ∈ plan.units, unit.id = entity.tableId ∧
        DescribedBy model target.database entity unit.body := by
  obtain ⟨plan, made, written⟩ := Script.plan_of_generate generated
  have planOf := Plan.planOf_of_ofModel made
  have style : target.database.commentStyle = .statement := by
    rw [onPostgreSQL]
    rfl
  refine ⟨plan, made, written, ?_⟩
  intro entity member
  obtain ⟨unit, unitMember, unitOf⟩ := planOf.unit_of_entity member
  have described := unitOf.describedBy (planOf.wellFormed.entityFormed member) style
  exact ⟨unit, unitMember, unitOf.id, described⟩

/-- The descriptions of a league are written as comments. -/
theorem generate_describes_leagueModel :
    Target.standard.database = .postgreSQL ∧
      ∃ script, Script.generate leagueModel Target.standard = .ok script ∧
        ∃ plan, Plan.ofModel leagueModel Target.standard.database = .ok plan ∧
          script = Script.ofPlan leagueModel.info.name Target.standard plan ∧
          ∀ entity ∈ leagueModel.entities, ∃ unit ∈ plan.units, unit.id = entity.tableId ∧
            DescribedBy leagueModel Target.standard.database entity unit.body := by
  obtain ⟨script, generated⟩ := exists_generate_leagueModel
  exact ⟨rfl, script, generated, generate_describes generated rfl⟩

/-- The host of a visit, with a description. -/
def hostField : Field :=
  { Field.named "host_id" (.reference "Member" "") with
    description := some "Who opens the door" }

/-- Visits, whose relationship to their host has the empty text for its description. -/
def visit : Entity :=
  ((Entity.named "Visit").withField hostField).withRelationship
    { Relationship.linking "host" "Member" .manyToOne with description := some "" }

/-- A model of members and visits. -/
def visitModel : Model where
  info := .named "Visits"
  entities := [Entity.named "Member", visit]

/-- A script is written that says nothing of a column whose field has a description. -/
theorem visitModel_description_lost :
    ∃ script plan, Script.generate visitModel Target.standard = .ok script ∧
      Plan.ofModel visitModel Target.standard.database = .ok plan ∧
      ∃ unit ∈ plan.units, UnitOf visitModel Target.standard.database visit unit ∧
        hostField ∈ visit.fields ∧
        hostField.description = some "Who opens the door" ∧
        ∀ text, .comment text ∉ unit.body := by
  have generates : ∃ script, Script.generate visitModel Target.standard = .ok script := by
    apply exists_of_isOk
    decide +kernel
  obtain ⟨script, generated⟩ := generates
  obtain ⟨plan, made, _⟩ := Script.plan_of_generate generated
  have planOf := Plan.planOf_of_ofModel made
  obtain ⟨unit, unitMember, unitOf⟩ :=
    planOf.unit_of_entity (List.mem_cons_of_mem _ List.mem_cons_self)
  have fieldMember : hostField ∈ visit.fields := List.mem_cons_of_mem _ List.mem_cons_self
  have noComments : (tableComments Target.standard.database visit).1.statements = [] := by
    decide +kernel
  refine
    ⟨script, plan, generated, made, unit, unitMember, unitOf, fieldMember, rfl, ?_⟩
  intro text member
  obtain ⟨table, indexes, _, _, _, body⟩ := unitOf.table
  rw [body, noComments] at member
  simp at member

end SchemaScript
