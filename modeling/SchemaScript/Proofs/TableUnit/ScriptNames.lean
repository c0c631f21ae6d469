import SchemaScript.Proofs.Sql.Parts
import SchemaScript.Proofs.TableUnit.Descriptions
import SchemaScript.Proofs.TableUnit.ForeignKeys
import SchemaScript.Proofs.TableUnit.Junction

/-!
# Where the names of a script come from

The names in the statements of a table are those of tables, namespaces, columns
and indexes that the model gives, those of join tables and their columns, which
it gives or which are derived, and those of indexes and constraints, which are
derived from them.  In a well-formed model none of them is empty.
-/

namespace SchemaScript

open Sql

/-- The names of a script: those that a model gives, and those derived from them. -/
inductive Model.ScriptName (model : Model) : String → Prop
  | table
      {entity : Entity}
      (member : entity ∈ model.entities) :
      ScriptName model entity.tableName
  | space
      {entity : Entity}
      (member : entity ∈ model.entities)
      {name : String}
      (lies : entity.tableId.namespaceName? = some name) :
      ScriptName model name
  | column
      {entity : Entity}
      (member : entity ∈ model.entities)
      {field : Field}
      (fieldMember : field ∈ entity.fields) :
      ScriptName model field.columnName
  | index
      {entity : Entity}
      (member : entity ∈ model.entities)
      {index : Index}
      (indexMember : index ∈ entity.indexes)
      {name : String}
      (given : index.name = some name) :
      ScriptName model name
  | joinTable
      {owner : Entity}
      (member : owner ∈ model.entities)
      {relationship : Relationship}
      (owns : relationship ∈ owner.manyToMany) :
      ScriptName model (relationship.junctionFor owner.tableName)
  | backwardKey
      {owner : Entity}
      (member : owner ∈ model.entities)
      {relationship : Relationship}
      (owns : relationship ∈ owner.manyToMany) :
      ScriptName model (relationship.backwardKeyFor owner.tableName)
  | forwardKey
      {owner : Entity}
      (member : owner ∈ model.entities)
      {relationship : Relationship}
      (owns : relationship ∈ owner.manyToMany) :
      ScriptName model relationship.forwardKeyName
  | derivedIndex
      {kind : String}
      (known : kind ∈ ["idx", "uidx", "uid"])
      {table : String}
      (tableNamed : ScriptName model table)
      {columns : List String}
      (columnsNamed : ∀ column ∈ columns, ScriptName model column) :
      ScriptName model (indexName kind table columns)
  | derivedKey
      {fromTable fromColumn toTable toColumn : String}
      (fromTableNamed : ScriptName model fromTable)
      (fromColumnNamed : ScriptName model fromColumn)
      (toTableNamed : ScriptName model toTable)
      (toColumnNamed : ScriptName model toColumn) :
      ScriptName model (foreignKeyName fromTable fromColumn toTable toColumn)

/-! ## Names that are not empty -/

theorem append_ne_empty_of_right
    {first second : String}
    (given : second ≠ "") :
    first ++ second ≠ "" := by
  simp [given]

/-- A name that is derived from four parts holds the lines between them. -/
theorem Sql.intercalate_ne_empty
    {first second third fourth : String} :
    "_".intercalate [first, second, third, fourth] ≠ "" := by
  intro empty
  have characters := congrArg String.toList empty
  simp [String.intercalate_cons_of_ne_nil] at characters

/-- An empty namespace is none. -/
theorem TableId.name_ne_empty_of_within
    {namespaceName? : Option String}
    {table name : String}
    (lies : (within namespaceName? table).namespaceName? = some name) :
    name ≠ "" := by
  have filtered := Option.filter_eq_some_iff.mp lies
  simpa using filtered.2

namespace Relationship

variable {relationship : Relationship} {table : String}

/-- No join table has the empty name. -/
theorem junctionFor_ne_empty : relationship.junctionFor table ≠ "" := by
  have derived : derivedJunction table relationship.toEntity ≠ "" := by
    rw [derivedJunction, String.append_assoc]
    apply append_ne_empty_of_right
    simp
  rw [junctionFor]
  cases given : relationship.junction? with
  | none =>
      exact derived
  | some name =>
      rw [junction?] at given
      split at given
      · split at given
        · cases given
        · next notEmpty =>
            cases given
            simpa using notEmpty
      · cases given

/-- The column that leads to the other side has a name. -/
theorem forwardKeyName_ne_empty : relationship.forwardKeyName ≠ "" := by
  rw [forwardKeyName]
  split
  · exact append_ne_empty_of_right (by decide)
  · next notEmpty => simpa using notEmpty

/-- The column that leads back has a name. -/
theorem backwardKeyFor_ne_empty : relationship.backwardKeyFor table ≠ "" := by
  rw [backwardKeyFor]
  split
  · split <;> exact append_ne_empty_of_right (by decide)
  · next notEmpty => simpa using notEmpty

end Relationship

/-- No name in the script of a well-formed model is empty. -/
theorem Model.ScriptName.ne_empty
    {model : Model}
    (wellFormed : model.WellFormed)
    {name : String}
    (named : model.ScriptName name) :
    name ≠ "" := by
  cases named with
  | table member =>
      exact (wellFormed.entityFormed member).tableNameGiven
  | space member lies =>
      exact TableId.name_ne_empty_of_within lies
  | column member fieldMember =>
      exact ((wellFormed.entityFormed member).fieldsValid _ fieldMember).columnNameGiven
  | index member indexMember given =>
      have valid := (wellFormed.entityFormed member).indexesValid _ indexMember
      rintro rfl
      exact (Index.validate_eq_ok_iff.mp valid).2 given
  | joinTable member owns =>
      exact Relationship.junctionFor_ne_empty
  | backwardKey member owns =>
      exact Relationship.backwardKeyFor_ne_empty
  | forwardKey member owns =>
      exact Relationship.forwardKeyName_ne_empty
  | derivedIndex known tableNamed columnsNamed =>
      exact intercalate_ne_empty
  | derivedKey fromTableNamed fromColumnNamed toTableNamed toColumnNamed =>
      exact intercalate_ne_empty

namespace TableUnit

variable {model : Model} {database : Database} {target : Target} {entity owner : Entity}
  {relationship : Relationship}

/-! ## Names of tables and columns -/

/-- The table of an entity is named by the model. -/
theorem namesAre_tableId
    (member : entity ∈ model.entities) :
    NamesAre model.ScriptName (tableParts entity.tableId) :=
  namesAre_tableParts.mpr ⟨fun _ => .space member, .table member⟩

/-- A join table lies in the namespace of its owner. -/
theorem namesAre_joinTableId
    (member : owner ∈ model.entities)
    (owns : relationship ∈ owner.manyToMany) :
    NamesAre model.ScriptName (tableParts (Model.joinTableId owner relationship)) :=
  namesAre_tableParts.mpr ⟨fun _ => .space member, .joinTable member owns⟩

/-- The names of a key are names of the script. -/
theorem KeyOf.namesAre
    {field : Field}
    {key : ForeignKey}
    (keyOf : KeyOf model entity relationship field key)
    (member : entity ∈ model.entities)
    (fieldMember : field ∈ entity.fields) :
    key.NamesAre model.ScriptName := by
  obtain ⟨other, otherMember, toTable, referenced, referencedMember, toColumn, _⟩ :=
    keyOf.exists_target
  have fromTable : model.ScriptName key.fromTable := keyOf.fromTable ▸ .table member
  have column : model.ScriptName key.column := keyOf.column ▸ .column member fieldMember
  have targetTable : model.ScriptName key.target.table := toTable ▸ .table otherMember
  have targetColumn : model.ScriptName key.targetColumn :=
    toColumn ▸ .column otherMember referencedMember
  exact {
    target := toTable ▸ namesAre_tableId otherMember
    targetColumn
    column
    constraintName := .derivedKey fromTable column targetTable targetColumn }

/-- Columns that names find are columns of the entity's fields. -/
theorem scriptName_of_resolveColumns
    (member : entity ∈ model.entities)
    {names columns : List String}
    {what : String}
    (found : resolveColumns entity names what = .ok columns) :
    ∀ column ∈ columns, model.ScriptName column := by
  intro column columnMember
  obtain ⟨_, _, field, fieldFound, rfl⟩ :=
    exists_left_of_forall₂ (resolveColumns_eq_ok_iff.mp found).2 columnMember
  exact .column member (Entity.mem_of_findField? fieldFound)

/-! ## Names of the tables of entities -/

/-- The names of a table are names of the script. -/
theorem TableOf.namesAre
    {table : TableDefinition}
    (tableOf : TableOf model database entity table)
    (member : entity ∈ model.entities) :
    NamesAre model.ScriptName (table.parts target) := by
  apply TableDefinition.namesAre_parts
  · rw [tableOf.id]
    exact namesAre_tableId member
  · intro column columnMember
    obtain ⟨field, fieldMember, columnOf⟩ :=
      exists_left_of_forall₂ tableOf.columns columnMember
    refine ⟨columnOf.name ▸ .column member fieldMember, ?_⟩
    intro key shown
    have reference := columnOf.reference
    rw [shown] at reference
    obtain ⟨_, _, _, _, keyOf⟩ := shownReference_eq_some_iff.mp reference
    exact keyOf.namesAre member fieldMember
  · intro constraint constraintMember
    obtain ⟨group, _, made⟩ :=
      exists_left_of_forall₂ (collect_eq_ok_iff.mp tableOf.uniques) constraintMember
    simp only [uniqueConstraint] at made
    split at made
    · next columns found =>
        cases made
        have columnsNamed := scriptName_of_resolveColumns member found
        exact
          UniqueConstraint.namesAre_parts (.derivedIndex (by decide) (.table member) columnsNamed)
            columnsNamed
    · cases made

/-- The names of all indexes that an entity asks for, repeated ones included. -/
theorem namesAre_of_requestedIndexes
    (member : entity ∈ model.entities)
    {requested : List IndexDefinition}
    (asked : requestedIndexes entity = .ok requested)
    {index : IndexDefinition}
    (indexMember : index ∈ requested) :
    NamesAre model.ScriptName (index.parts target) := by
  have made : indexesOf entity = .ok requested.eraseDups :=
    indexesOf_eq_ok_iff.mpr ⟨requested, asked, rfl⟩
  rcases cases_of_indexesOf made (List.mem_eraseDups.mpr indexMember) with
    ⟨field, indexed, rfl⟩ | ⟨declared, declaredMember, found⟩
  · have fieldMember : field ∈ entity.fields := List.mem_of_mem_filter indexed
    have column : model.ScriptName field.columnName := .column member fieldMember
    have columns : ∀ name ∈ [field.columnName], model.ScriptName name := by
      simpa using column
    exact
      IndexDefinition.namesAre_parts (.derivedIndex (by decide) (.table member) columns)
        (namesAre_tableId member) columns
  · obtain ⟨columns, resolved, rfl⟩ := declaredIndex_eq_ok_iff.mp found
    have columnsNamed := scriptName_of_resolveColumns member resolved
    refine IndexDefinition.namesAre_parts ?_ (namesAre_tableId member) columnsNamed
    cases given : declared.name with
    | some name =>
        exact .index member declaredMember given
    | none =>
        have known : (if declared.unique then "uidx" else "idx") ∈ ["idx", "uidx", "uid"] := by
          split <;> decide
        exact .derivedIndex known (.table member) columnsNamed

/-! ## Names of join tables -/

/-- The entities and columns on both sides of a join table. -/
theorem scriptName_of_joinSide
    (member : owner ∈ model.entities)
    (owns : relationship ∈ owner.manyToMany)
    {other : Entity}
    (otherMember : other ∈ model.entities)
    {side : JoinSide}
    (isSide : side ∈ joinSides owner other relationship) :
    model.ScriptName side.column ∧ side.entity ∈ model.entities := by
  rw [joinSides, List.mem_pair] at isSide
  rcases isSide with rfl | rfl
  · exact ⟨.backwardKey member owns, member⟩
  · exact ⟨.forwardKey member owns, otherMember⟩

/-- The names of a column of a join table are names of the script. -/
theorem StandsFor.namesAre
    {name : String}
    (tableNamed : model.ScriptName name)
    {side : JoinSide}
    (sideNamed : model.ScriptName side.column)
    (sideMember : side.entity ∈ model.entities)
    {column : Column}
    (standsFor : StandsFor model database name relationship side column) :
    model.ScriptName column.name ∧
      ∀ key, column.reference = some key → key.NamesAre model.ScriptName := by
  obtain ⟨primaryKey, isPrimary, _, reference⟩ := standsFor.holdsKey
  refine ⟨standsFor.name ▸ sideNamed, ?_⟩
  intro key shown
  rw [shown, Option.some_eq_ite_none_right, Option.some.injEq] at reference
  obtain ⟨_, rfl⟩ := reference
  have primaryMember : primaryKey ∈ side.entity.fields :=
    Entity.mem_of_referencedField (Entity.referencedField_none_eq_ok_iff.mpr isPrimary)
  have targetColumn : model.ScriptName primaryKey.columnName := .column sideMember primaryMember
  exact {
    target := namesAre_tableId sideMember
    targetColumn
    column := sideNamed
    constraintName := .derivedKey tableNamed sideNamed (.table sideMember) targetColumn }

/-! ## Names of statements -/

/-- What a statement is made of holds names of the script only. -/
def HoldsNames (model : Model) (target : Target) (statement : Statement) : Prop :=
  ∃ parts, statement.MadeOf target parts ∧ NamesAre model.ScriptName parts

/-- Comments on a table and its columns quote names of the script. -/
theorem holdsNames_of_tableComments
    (wellFormed : entity.WellFormed)
    (member : entity ∈ model.entities)
    {text : String}
    (waits : text ∈ (tableComments target.database entity).1.statements) :
    HoldsNames model target (.comment text) := by
  have idNamed := namesAre_tableId member
  rcases tableComments_cases wellFormed waits with
    ⟨field, fieldMember, said, _, rfl⟩ | ⟨said, _, rfl⟩
  · have column : model.ScriptName field.columnName := .column member fieldMember
    exact ⟨_, .columnComment entity.tableId field.columnName said, by simp [idNamed, column]⟩
  · exact ⟨_, .tableComment entity.tableId said, by simp [idNamed]⟩

/-- Comments on a join table quote names of the script. -/
theorem holdsNames_of_joinComments
    {id : TableId}
    (idNamed : NamesAre model.ScriptName (tableParts id))
    {text : String}
    (waits : text ∈ (joinComments target.database id relationship).1.statements) :
    HoldsNames model target (.comment text) := by
  obtain ⟨said, _, rfl⟩ := joinComments_cases waits
  exact ⟨_, .tableComment id said, by simp [idNamed]⟩

/-- All statements of a unit quote names of the script. -/
theorem UnitOf.holdsNames
    (wellFormed : entity.WellFormed)
    (member : entity ∈ model.entities)
    {unit : TableUnit (List Statement)}
    (unitOf : UnitOf model target.database entity unit)
    {statement : Statement}
    (inUnit : statement ∈ unit.body) :
    HoldsNames model target statement := by
  obtain ⟨table, indexes, tableOf, found, _, body⟩ := unitOf.table
  rw [body] at inUnit
  simp only [List.mem_cons, List.mem_append, List.mem_map] at inUnit
  rcases inUnit with isTable | ⟨index, indexMember, rfl⟩ | ⟨text, waits, rfl⟩
  · subst isTable
    exact ⟨_, .createTable table, tableOf.namesAre member⟩
  · obtain ⟨requested, asked, rfl⟩ := indexesOf_eq_ok_iff.mp found
    have wasAsked := List.mem_eraseDups.mp indexMember
    exact ⟨_, .createIndex index, namesAre_of_requestedIndexes member asked wasAsked⟩
  · exact holdsNames_of_tableComments wellFormed member waits

/-- All statements of a join table quote names of the script. -/
theorem JoinOf.holdsNames
    (member : owner ∈ model.entities)
    (owns : relationship ∈ owner.manyToMany)
    {join : JoinTable (List Statement)}
    (joinOf : JoinOf model target.database owner relationship join)
    {statement : Statement}
    (inJoin : statement ∈ join.body) :
    HoldsNames model target statement := by
  obtain ⟨sameId, other, columns, otherFound, columnsFound, body⟩ := joinOf
  rw [body, joinStatements_eq] at inJoin
  have idNamed : NamesAre model.ScriptName (tableParts join.id) :=
    sameId ▸ namesAre_joinTableId member owns
  have tableNamed : model.ScriptName join.id.table := sameId ▸ .joinTable member owns
  have columnsNamed :
      ∀ column ∈ columns,
        model.ScriptName column.name ∧
          ∀ key, column.reference = some key → key.NamesAre model.ScriptName := by
    intro column columnMember
    obtain ⟨side, isSide, found⟩ := exists_left_of_forall₂ columnsFound columnMember
    obtain ⟨sideNamed, sideMember⟩ :=
      scriptName_of_joinSide member owns (Model.mem_of_requireEntity otherFound) isSide
    exact (joinColumn_eq_ok_iff.mp found).namesAre tableNamed sideNamed sideMember
  simp only [List.mem_cons, List.mem_append, List.mem_map] at inJoin
  rcases inJoin with isTable | ⟨index, indexMember, rfl⟩ | ⟨text, waits, rfl⟩
  · subst isTable
    have noUniques :
        ∀ constraint ∈ (joinDefinition target.database join.id relationship columns).uniques,
          NamesAre model.ScriptName constraint.parts :=
      fun _ listed => nomatch listed
    exact ⟨_, .createTable _, TableDefinition.namesAre_parts idNamed columnsNamed noUniques⟩
  · obtain ⟨_, rfl⟩ := mem_joinIndexes.mp indexMember
    have names : ∀ name ∈ columns.map (·.name), model.ScriptName name := by
      intro name nameMember
      obtain ⟨column, columnMember, rfl⟩ := List.mem_map.mp nameMember
      exact (columnsNamed column columnMember).1
    exact
      ⟨_, .createIndex _,
        IndexDefinition.namesAre_parts (.derivedIndex (by decide) tableNamed names) idNamed names⟩
  · exact holdsNames_of_joinComments idNamed waits

end TableUnit

end SchemaScript
