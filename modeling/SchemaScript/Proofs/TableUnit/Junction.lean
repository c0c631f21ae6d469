import SchemaScript.Proofs.Model.ColumnType
import SchemaScript.Proofs.TableUnit.Blocks

/-!
# What join tables hold

A join table pairs the primary keys of two entities.  Each of its two columns
stands for one side of the relationship: it is never empty, has the type of
that side's primary key, and refers to this key unless the relationship is not
enforced.  A model that passes its checks gives the columns different names.
-/

namespace SchemaScript.TableUnit

open Sql

variable {model : Model} {database : Database} {owner target : Entity}
  {relationship : Relationship} {join : JoinTable (List Statement)}

/-! ## Sides -/

/-- The foreign key by which a side of a join table refers to a primary key. -/
def sideKey (table : String) (relationship : Relationship) (side : JoinSide) (key : Field) :
    ForeignKey where
  fromTable := table
  column := side.column
  target := side.entity.tableId
  targetColumn := key.columnName
  onDelete := relationship.onDelete

/-- A column of a join table stands for a side: it holds the primary key of the side's entity. -/
structure StandsFor (model : Model) (database : Database) (table : String)
    (relationship : Relationship) (side : JoinSide) (column : Column) : Prop where
  name : column.name = side.column
  comment : column.comment = ""
  holdsKey :
    ∃ key, side.entity.primaryKey? = some key ∧
      (∃ sqlType, model.columnType database key = .ok sqlType ∧
        column.body = .plain sqlType true false false none) ∧
      column.reference =
        if relationship.dbConstraint then some (sideKey table relationship side key) else none

/-- The column that is made for a side stands for this side. -/
theorem joinColumn_eq_ok_iff
    {table : String}
    {side : JoinSide}
    {column : Column} :
    joinColumn model database table relationship side = .ok column ↔
      StandsFor model database table relationship side column := by
  simp only [joinColumn, Model.primaryKeyType, bind_eq_ok_iff,
    Entity.referencedField_none_eq_ok_iff]
  constructor
  · rintro ⟨sqlType, typed, key, found, same⟩
    cases same
    rw [Entity.referencedField_none_eq_ok_iff.mpr found] at typed
    exact ⟨rfl, rfl, key, found, ⟨sqlType, typed, rfl⟩, rfl⟩
  · rintro ⟨name, comment, key, found, ⟨sqlType, typed, body⟩, reference⟩
    refine ⟨sqlType, ?_, key, found, ?_⟩
    · rw [Entity.referencedField_none_eq_ok_iff.mpr found]
      exact typed
    · obtain ⟨_, _, _, _⟩ := column
      simp only at name comment body reference
      subst name comment body reference
      rfl

/-- A column of a relationship that is not enforced shows no key. -/
theorem StandsFor.reference_eq_none
    {table : String}
    {side : JoinSide}
    {column : Column}
    (standsFor : StandsFor model database table relationship side column)
    (logical : relationship.dbConstraint = false) :
    column.reference = none := by
  obtain ⟨key, _, _, reference⟩ := standsFor.holdsKey
  rw [reference, logical]
  rfl

/-- A key stands on the column whose name it has. -/
theorem StandsFor.key_column
    {table : String}
    {side : JoinSide}
    {column : Column}
    (standsFor : StandsFor model database table relationship side column)
    {key : ForeignKey}
    (shown : column.reference = some key) :
    key.column = column.name := by
  obtain ⟨primaryKey, _, _, reference⟩ := standsFor.holdsKey
  rw [shown, Option.some_eq_ite_none_right, Option.some.injEq] at reference
  rw [reference.2, standsFor.name]
  rfl

/-! ## Tables -/

/-- A table pairs the primary keys of an owner and of the entity that it is linked with. -/
structure PairsKeys (model : Model) (database : Database) (owner target : Entity)
    (relationship : Relationship) (table : TableDefinition) : Prop where
  columns :
    ∃ backward forward,
      table.columns = [backward, forward] ∧
        backward.name ≠ forward.name ∧
        StandsFor model database table.id.table relationship
          { column := relationship.backwardKeyFor owner.tableName, entity := owner } backward ∧
        StandsFor model database table.id.table relationship
          { column := relationship.forwardKeyName, entity := target } forward
  uniques : table.uniques = []
  /-- Without constraint, the table consists of names, types and what forbids nulls. -/
  logical :
    relationship.dbConstraint = false →
      table.foreignKeys = [] ∧
        table.lines database =
          table.columns.map fun column =>
            " ".intercalate (database.quote column.name :: column.body.words)

/-- The table for two columns that stand for the sides of a relationship pairs their keys. -/
theorem pairsKeys_joinDefinition
    {id : TableId}
    {columns : List Column}
    (differ : relationship.backwardKeyFor owner.tableName ≠ relationship.forwardKeyName)
    (standFor :
      List.Forall₂ (StandsFor model database id.table relationship)
        (joinSides owner target relationship) columns) :
    PairsKeys model database owner target relationship
      (joinDefinition database id relationship columns) := by
  obtain ⟨backward, _, backwardStands, forwardRelated, rfl⟩ :=
    List.forall₂_cons_left_iff.mp standFor
  obtain ⟨forward, _, forwardStands, noMore, rfl⟩ :=
    List.forall₂_cons_left_iff.mp forwardRelated
  cases noMore
  refine {
    columns := ⟨backward, forward, rfl, ?_, backwardStands, forwardStands⟩
    uniques := rfl
    logical := ?_ }
  · rw [backwardStands.name, forwardStands.name]
    exact differ
  · intro logical
    have backwardBare := backwardStands.reference_eq_none logical
    have forwardBare := forwardStands.reference_eq_none logical
    have noKeys :
        (joinDefinition database id relationship [backward, forward]).foreignKeys = [] := by
      simp [TableDefinition.foreignKeys, joinDefinition, backwardBare, forwardBare]
    refine ⟨noKeys, ?_⟩
    rw [TableDefinition.lines, noKeys]
    simp [joinDefinition, Column.line, Column.lineWith, backwardBare, forwardBare,
      backwardStands.comment, forwardStands.comment]

/-- The table of a join table is defined by columns that stand for the sides. -/
theorem JoinOf.exists_joinDefinition
    (joinOf : JoinOf model database owner relationship join)
    {table : TableDefinition}
    (blockOf : BlockOf table join.body) :
    ∃ target columns, table = joinDefinition database join.id relationship columns ∧
      List.Forall₂ (StandsFor model database join.id.table relationship)
        (joinSides owner target relationship) columns := by
  obtain ⟨target, columns, joinBlock, _, columnsFound⟩ := joinOf.blockOf
  obtain ⟨_, _, body⟩ := blockOf
  have same : table = joinDefinition database join.id relationship columns := by
    apply joinBlock.eq_of_createTable
    simp [body]
  exact ⟨target, columns, same, columnsFound.imp fun _ _ found => joinColumn_eq_ok_iff.mp found⟩

/-- The columns of a join table stand for its sides. -/
theorem JoinOf.exists_standsFor
    (joinOf : JoinOf model database owner relationship join)
    {table : TableDefinition}
    (blockOf : BlockOf table join.body) :
    ∃ target, List.Forall₂ (StandsFor model database join.id.table relationship)
      (joinSides owner target relationship) table.columns := by
  obtain ⟨target, columns, rfl, standFor⟩ := joinOf.exists_joinDefinition blockOf
  exact ⟨target, standFor⟩

/-- The indexes of a join table: the one over both columns, if its pairs are unique. -/
theorem mem_joinIndexes
    {id : TableId}
    {columns : List Column}
    {index : IndexDefinition} :
    index ∈ joinIndexes id relationship columns ↔
      relationship.uniquePairs = true ∧
        index =
          { name := indexName "uidx" id.table (columns.map (·.name))
            table := id
            columns := columns.map (·.name)
            unique := true } := by
  rw [joinIndexes]
  split <;> simp_all

/--
The join table of a relationship lies in the namespace of its owner, is no
entity's table, and pairs the primary key of the owner with that of the other
entity, in this order.  It has one index, over both columns, exactly when the
pairs are unique.
-/
theorem joinTable?_pairsKeys
    (valid : model.validate = .ok ())
    (member : owner ∈ model.entities)
    (declared : relationship ∈ owner.manyToMany)
    (made : joinTable? model database owner relationship = .ok (some join)) :
    join.id.table = relationship.junctionFor owner.tableName ∧
      join.id.namespaceName? = owner.tableId.namespaceName? ∧
      (∀ entity ∈ model.entities, entity.tableId ≠ join.id) ∧
      ∃ target table,
        model.requireEntity relationship.toEntity = .ok target ∧
          BlockOf table join.body ∧
          table.id = join.id ∧
          PairsKeys model database owner target relationship table ∧
          ∀ index, .createIndex index ∈ join.body ↔
            relationship.uniquePairs = true ∧
              index =
                { name :=
                    indexName "uidx" join.id.table
                      [relationship.backwardKeyFor owner.tableName, relationship.forwardKeyName]
                  table := join.id
                  columns :=
                    [relationship.backwardKeyFor owner.tableName, relationship.forwardKeyName]
                  unique := true } := by
  have wellFormed := Model.validate_eq_ok_iff.mp valid
  obtain ⟨owned, manyToMany⟩ := List.mem_filter.mp declared
  rw [joinTable?_eq_ok_iff] at made
  split at made
  · next undeclared =>
      obtain ⟨_, joinOf, same⟩ := made
      cases same
      obtain ⟨sameId, target, columns, targetFound, columnsFound, body⟩ := joinOf
      have differ := wellFormed.joinColumnsDiffer owner member relationship owned manyToMany
      have standFor := columnsFound.imp fun _ _ found => joinColumn_eq_ok_iff.mp found
      have names :
          columns.map (·.name) =
            [relationship.backwardKeyFor owner.tableName, relationship.forwardKeyName] :=
        map_eq_of_forall₂ standFor fun _ _ stands => stands.name
      rw [joinStatements_eq] at body
      refine
        ⟨by rw [sameId]; rfl, by rw [sameId]; rfl, ?_, target,
          joinDefinition database join.id relationship columns, targetFound, ⟨_, _, body⟩, rfl,
          pairsKeys_joinDefinition differ standFor, ?_⟩
      · rw [sameId]
        exact entityOfTable?_isNone_iff.mp undeclared
      · intro index
        rw [← names, ← mem_joinIndexes, body]
        simp
  · cases made

/-- Guilds, whose keys are UUIDs, have persons as members, each of them once. -/
def guild : Entity :=
  (((Entity.named "Guild").withPrimaryKey Field.uuidKey).inNamespace "craft").withRelationship
    { Relationship.linking "members" "Person" (.manyToMany "") with
      onDelete := .restrict
      uniquePairs := true }

/-- A model of guilds and persons. -/
def guildModel : Model where
  info := .named "Guilds"
  entities := [guild, Entity.named "Person"]

/-- A guild has a join table of the keys of both sides. -/
theorem joinTable?_pairsKeys_guildModel :
    ∃ relationship ∈ guild.manyToMany, ∃ join,
      guildModel.validate = .ok () ∧
        guild ∈ guildModel.entities ∧
        joinTable? guildModel .mySQL guild relationship = .ok (some join) ∧
        join.id.table = relationship.junctionFor guild.tableName ∧
        join.id.namespaceName? = guild.tableId.namespaceName? ∧
        (∀ entity ∈ guildModel.entities, entity.tableId ≠ join.id) ∧
        ∃ target table,
          guildModel.requireEntity relationship.toEntity = .ok target ∧
            BlockOf table join.body ∧
            table.id = join.id ∧
            PairsKeys guildModel .mySQL guild target relationship table ∧
            ∀ index, .createIndex index ∈ join.body ↔
              relationship.uniquePairs = true ∧
                index =
                  { name :=
                      indexName "uidx" join.id.table
                        [relationship.backwardKeyFor guild.tableName,
                          relationship.forwardKeyName]
                    table := join.id
                    columns :=
                      [relationship.backwardKeyFor guild.tableName, relationship.forwardKeyName]
                    unique := true } := by
  have valid : guildModel.validate = .ok () := by
    decide +kernel
  have someMade :
      ∃ relationship ∈ guild.manyToMany,
        (joinTable? guildModel .mySQL guild relationship).toOption.join.isSome = true := by
    decide +kernel
  obtain ⟨relationship, declared, isSome⟩ := someMade
  obtain ⟨join, found⟩ := Option.isSome_iff_exists.mp isSome
  have made : joinTable? guildModel .mySQL guild relationship = .ok (some join) := by
    cases outcome : joinTable? guildModel .mySQL guild relationship with
    | error error =>
        rw [outcome] at found
        cases found
    | ok join? =>
        rw [outcome] at found
        cases found
        rfl
  exact
    ⟨relationship, declared, join, valid, List.mem_cons_self, made,
      joinTable?_pairsKeys valid List.mem_cons_self declared made⟩

end SchemaScript.TableUnit
