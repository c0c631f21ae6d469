import SchemaScript.Proofs.Model.Outline
import SchemaScript.Proofs.Plan

/-!
# Units and the outlines of other entities

Assembling the unit of an entity looks at other entities through references
only.  The unit, or the reason for which there is none, stays the same in every
model that differs in what references cannot tell: no comment, index, default or
constraint of one table shows up in another one.
-/

namespace SchemaScript.TableUnit

open Sql

variable {model other : Model} {database : Database} {entity : Entity}

/-! ## Columns -/

/-- A column has one body in models that are alike. -/
theorem columnBody_eq_of_alike
    (alike : model.Alike other)
    {field : Field} :
    columnBody other database field = columnBody model database field := by
  simp only [columnBody, plainBody, alike.columnType rfl]

/-- A foreign key takes over the table and the column that it refers to. -/
theorem foreignKey?_eq_of_alike
    (alike : model.Alike other)
    {field : Field} :
    foreignKey? other entity field = foreignKey? model entity field := by
  simp only [foreignKey?]
  split
  · rfl
  · next relationship _ =>
      split
      · symm
        rw [← agree_eq_iff]
        refine .bind (alike.requireEntity _) fun target otherTarget targetAlike => ?_
        refine .bind (targetAlike.referencedField _) fun key otherKey keyAlike => ?_
        exact .results (by rw [targetAlike.tableId, keyAlike.columnName])
      · rfl

/-- A column has one key in models that are alike. -/
theorem shownReference_eq_of_alike
    (alike : model.Alike other)
    {field : Field} :
    shownReference other entity field = shownReference model entity field := by
  simp only [shownReference, foreignKey?_eq_of_alike alike]

/-- An entity has the same columns in models that are alike. -/
theorem columnsOf_eq_of_alike
    (alike : model.Alike other)
    {queue : CommentQueue}
    {fields : List Field} :
    columnsOf other database entity queue fields =
      columnsOf model database entity queue fields := by
  have sameColumn
      (queue : CommentQueue)
      (field : Field) :
      referencingColumn other database entity queue field =
        referencingColumn model database entity queue field := by
    simp only [referencingColumn, column, columnBody_eq_of_alike alike,
      foreignKey?_eq_of_alike alike]
  induction fields generalizing queue with
  | nil =>
      rfl
  | cons field later inductionHypothesis =>
      simp only [columnsOf, sameColumn, inductionHypothesis]

/-! ## Join tables -/

/-- Sides whose entities have the same outline have the same column. -/
theorem joinColumn_eq_of_alike
    (alike : model.Alike other)
    {table : String}
    {relationship : Relationship}
    {side otherSide : JoinSide}
    (sameColumn : otherSide.column = side.column)
    (sideAlike : side.entity.Alike otherSide.entity) :
    joinColumn other database table relationship otherSide =
      joinColumn model database table relationship side := by
  simp only [joinColumn, alike.primaryKeyType sideAlike, sameColumn, sideAlike.tableId]
  congr 1
  funext sqlType
  symm
  rw [← agree_eq_iff]
  refine .bind (sideAlike.referencedField none) fun key otherKey keyAlike => ?_
  exact .results (by rw [keyAlike.columnName])

/-- A relationship has the same join table in models that are alike. -/
theorem joinTable?_eq_of_alike
    (alike : model.Alike other)
    {relationship : Relationship} :
    joinTable? other database entity relationship =
      joinTable? model database entity relationship := by
  simp only [joinTable?, alike.isSome_entityOfTable?]
  split
  · rfl
  · symm
    rw [← agree_eq_iff]
    refine .bind (alike.requireEntity _) fun target otherTarget targetAlike => ?_
    have sidesAlike
        (table : String) :
        List.Forall₂
          (fun side otherSide =>
            joinColumn other database table relationship otherSide =
              joinColumn model database table relationship side)
          (joinSides entity target relationship) (joinSides entity otherTarget relationship) :=
      .cons (joinColumn_eq_of_alike alike rfl rfl)
        (.cons (joinColumn_eq_of_alike alike rfl targetAlike) .nil)
    rw [agree_eq_iff, collect_eq_of_forall₂ (sidesAlike _)]

/-- An entity has the same join tables in models that are alike. -/
theorem joinTablesOf_eq_of_alike
    (alike : model.Alike other) :
    joinTablesOf other database entity = joinTablesOf model database entity := by
  have sameStep : joinTable? other database entity = joinTable? model database entity :=
    funext fun _ => joinTable?_eq_of_alike alike
  simp only [joinTablesOf, sameStep]

/-! ## Units -/

/--
The unit of an entity is the same in two models whose entities have the same
outlines: the same statements, references and join tables, or the same error.
-/
theorem ofEntity_eq_of_alike
    {model other : Model}
    {database : Database}
    {entity : Entity}
    (alike : model.Alike other) :
    ofEntity other database entity = ofEntity model database entity := by
  have sameColumns
      (queue : CommentQueue) :
      columnsOf other database entity queue entity.fields =
        columnsOf model database entity queue entity.fields :=
    columnsOf_eq_of_alike alike
  have sameJoins :
      joinTablesOf other database entity = joinTablesOf model database entity :=
    joinTablesOf_eq_of_alike alike
  simp only [ofEntity, sameColumns, sameJoins]

/-- An entity of the same outline that differs in all the rest. -/
def annotated (entity : Entity) : Entity :=
  { entity with
    description := some "Seen /* from inside */ only"
    fields := entity.fields.map fun field =>
      { field with
        nullable := !field.nullable
        unique := !field.unique
        indexed := !field.indexed
        generated := !field.generated
        defaultValue := some .null
        description := some "Not seen; from outside" }
    uniqueTogether := { fields := ["id"] } :: entity.uniqueTogether
    indexes := { name := none, fields := ["id"], unique := true } :: entity.indexes }

/-- The league with all entities but the first one annotated. -/
def annotatedLeagueModel : Model :=
  { leagueModel with
    entities := leagueModel.entities.take 1 ++ (leagueModel.entities.drop 1).map annotated }

/-- A game has the same table when all other entities of its league are annotated. -/
theorem ofEntity_eq_of_alike_leagueModel :
    leagueModel.Alike annotatedLeagueModel ∧
      ∃ game unit,
        leagueModel.entities[0]? = some game ∧
        annotatedLeagueModel.entities[0]? = some game ∧
        ofEntity leagueModel .postgreSQL game = .ok unit ∧
        ofEntity annotatedLeagueModel .postgreSQL game = .ok unit := by
  have alike : leagueModel.Alike annotatedLeagueModel := rfl
  have assembled :
      ∃ game unit, leagueModel.entities[0]? = some game ∧
        ofEntity leagueModel .postgreSQL game = .ok unit := by
    have succeeds :
        (ofEntity leagueModel .postgreSQL (leagueModel.entities.head (by decide))).isOk = true := by
      decide +kernel
    obtain ⟨unit, made⟩ := exists_of_isOk succeeds
    exact ⟨_, unit, rfl, made⟩
  obtain ⟨game, unit, isFirst, made⟩ := assembled
  exact ⟨alike, game, unit, isFirst, isFirst, made, (ofEntity_eq_of_alike alike).trans made⟩

end SchemaScript.TableUnit
