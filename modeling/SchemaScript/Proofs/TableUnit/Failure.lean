import SchemaScript.Proofs.Model.ColumnType
import SchemaScript.Proofs.TableUnit.Assembly
import SchemaScript.Proofs.TableUnit.Indexes

/-!
# Failures of table units

Assembling the unit of an entity can go wrong in many places.  When the model
is well-formed, all of them but one are out of reach: the names that unique
groups, indexes and relationships give find something, and a default that
cannot be written is left out.  What remains is a column without a type, be it
that of a field or that of a join table, which has the type of a primary key.
-/

namespace SchemaScript

/-- A field of the model has no type, for a given reason. -/
def Model.LacksType (model : Model) (database : Database) (error : SchemaError) : Prop :=
  ∃ entity ∈ model.entities, ∃ field ∈ entity.fields,
    model.columnType database field = .error error

namespace TableUnit

open Sql

variable {model : Model} {database : Database} {entity : Entity} {field : Field}

/-! ## Columns -/

/-- A default fails only as one that is not supported. -/
theorem defaultLiteral_fails :
    FailsOnly (fun error => ∃ column reason, error = .unsupportedDefault column reason)
      (defaultLiteral database field) := by
  intro error failed
  simp only [defaultLiteral] at failed
  split at failed
  · cases failed
  · next value _ =>
      split at failed
      · cases value with
        | float number =>
            simp only at failed
            split at failed
            · cases failed
            · cases failed
              exact ⟨_, _, rfl⟩
        | callable name =>
            cases failed
            exact ⟨_, _, rfl⟩
        | _ =>
            cases failed
      · cases failed

/-- A default is shown or left out. -/
theorem exists_shownDefault :
    ∃ literal, shownDefault database field = .ok literal := by
  simp only [shownDefault]
  split
  · next literal _ =>
      exact ⟨literal, rfl⟩
  · exact ⟨none, rfl⟩
  · next error other failed =>
      obtain ⟨column, reason, rfl⟩ := defaultLiteral_fails error failed
      exact (other column reason rfl).elim

/-- What a column says is known unless its type is not. -/
theorem columnBody_fails :
    FailsOnly (fun error => model.columnType database field = .error error)
      (columnBody model database field) := by
  have defaultShown : ∃ literal, shownDefault database field = .ok literal :=
    exists_shownDefault
  obtain ⟨literal, shown⟩ := defaultShown
  simp only [columnBody]
  split
  · exact failsOnly_ok
  · refine .bind (fun error failed => failed) fun sqlType _ => ?_
    rw [shown]
    exact failsOnly_ok

/-- A column that says something has a type, even when the database's own words stand for it. -/
theorem exists_columnType_of_columnBody
    {body : ColumnBody}
    (found : columnBody model database field = .ok body) :
    ∃ name, model.columnType database field = .ok name := by
  rcases columnBody_cases found with ⟨clause, _, assigned, _⟩ | ⟨name, _, typed, _⟩
  · obtain ⟨notReference, name, named⟩ := Database.exists_sqlType_of_generatedKey? assigned
    have followed : model.concreteType field.dataType = .ok field.dataType :=
      Model.concreteType_of_not_isReference notReference
    exact ⟨name, Model.columnType_eq_ok_iff.mpr ⟨field.dataType, followed, named⟩⟩
  · exact ⟨name, typed⟩

/-- A relationship of a well-formed model leads to the key that it needs. -/
theorem exists_foreignKey?
    (wellFormed : model.WellFormed)
    (member : entity ∈ model.entities) :
    ∃ key?, foreignKey? model entity field = .ok key? := by
  simp only [foreignKey?]
  split
  · exact ⟨none, rfl⟩
  · next relationship carried =>
      have declared : relationship ∈ entity.relationships :=
        List.mem_of_find?_eq_some carried
      obtain ⟨target, targetFound, targetField, fieldFound⟩ :=
        wellFormed.linksFound entity member relationship declared
      split
      · simp [targetFound, fieldFound]
      · exact ⟨none, rfl⟩

/-- A column that refers to a table fails only for its type. -/
theorem referencingColumn_fails
    (wellFormed : model.WellFormed)
    (member : entity ∈ model.entities)
    {queue : CommentQueue} :
    FailsOnly (fun error => model.columnType database field = .error error)
      (referencingColumn model database entity queue field) := by
  have referenceFound : ∃ key?, foreignKey? model entity field = .ok key? :=
    exists_foreignKey? wellFormed member
  simp only [referencingColumn, column]
  split
  · split
    · obtain ⟨reference, found⟩ := referenceFound
      rw [found]
      exact failsOnly_ok
    · exact failsOnly_ok
  · next error failed =>
      apply failsOnly_error
      split at failed
      · cases failed
      · next bodyFailed =>
          cases failed
          exact columnBody_fails _ bodyFailed

/-- Columns fail only for the type of one of their fields. -/
theorem columnsOf_fails
    (wellFormed : model.WellFormed)
    (member : entity ∈ model.entities)
    {queue : CommentQueue}
    {fields : List Field} :
    FailsOnly (fun error => ∃ field ∈ fields, model.columnType database field = .error error)
      (columnsOf model database entity queue fields) := by
  induction fields generalizing queue with
  | nil =>
      exact failsOnly_ok
  | cons first later inductionHypothesis =>
      simp only [columnsOf]
      split
      · split
        · exact failsOnly_ok
        · next error failed =>
            obtain ⟨field, fieldMember, untyped⟩ := inductionHypothesis error failed
            exact failsOnly_error ⟨field, List.mem_cons_of_mem first fieldMember, untyped⟩
      · next error failed =>
          have untyped := referencingColumn_fails wellFormed member error failed
          exact failsOnly_error ⟨first, List.mem_cons_self, untyped⟩

/-! ## Unique groups and indexes -/

/-- Names that all find a field find columns. -/
theorem exists_resolveColumns
    {names : List String}
    {what : String}
    (covered : entity.Covered names)
    (given : names ≠ []) :
    ∃ columns, resolveColumns entity names what = .ok columns := by
  have resolvable : ∃ columns, entity.Resolves names columns := by
    apply exists_forall₂
    intro name listed
    obtain ⟨field, found⟩ := covered name listed
    exact ⟨field.columnName, field, found, rfl⟩
  obtain ⟨columns, resolves⟩ := resolvable
  exact ⟨columns, resolveColumns_eq_ok_iff.mpr ⟨given, resolves⟩⟩

/-- The unique groups of a well-formed entity become constraints. -/
theorem exists_uniqueConstraintsOf
    (wellFormed : entity.WellFormed) :
    ∃ constraints, uniqueConstraintsOf entity = .ok constraints := by
  apply FailsOnly.exists_ok
  apply failsOnly_collect
  intro group member
  have covered := wellFormed.groupsCovered group member
  have given := UniqueGroup.validate_eq_ok_iff.mp (wellFormed.groupsValid group member)
  have columnsFound : ∃ columns, resolveColumns entity group.fields "unique group" = .ok columns :=
    exists_resolveColumns covered given
  obtain ⟨columns, resolved⟩ := columnsFound
  rw [uniqueConstraint, resolved]
  exact failsOnly_ok

/-- An index that a well-formed entity declares can be created. -/
theorem exists_declaredIndex
    (wellFormed : entity.WellFormed)
    {index : Index}
    (member : index ∈ entity.indexes) :
    ∃ definition, declaredIndex entity index = .ok definition := by
  have covered := wellFormed.indexesCovered index member
  have given := (Index.validate_eq_ok_iff.mp (wellFormed.indexesValid index member)).1
  have columnsFound : ∃ columns, resolveColumns entity index.fields "index" = .ok columns :=
    exists_resolveColumns covered given
  obtain ⟨columns, resolved⟩ := columnsFound
  rw [declaredIndex, resolved]
  exact ⟨_, rfl⟩

/-- The indexes of a well-formed entity can be created. -/
theorem exists_indexesOf
    (wellFormed : entity.WellFormed) :
    ∃ indexes, indexesOf entity = .ok indexes := by
  have related :
      ∃ declared,
        List.Forall₂ (fun index definition => declaredIndex entity index = .ok definition)
          entity.indexes declared :=
    exists_forall₂ fun _ member => exists_declaredIndex wellFormed member
  obtain ⟨declared, found⟩ := related
  rw [indexesOf, collect_eq_ok_iff.mpr found]
  exact ⟨_, rfl⟩

/-! ## Join tables -/

/-- The column of a join table fails with the primary key whose type it has. -/
theorem joinColumn_fails
    (wellFormed : model.WellFormed)
    {table : String}
    {relationship : Relationship}
    {side : JoinSide}
    (member : side.entity ∈ model.entities) :
    FailsOnly (model.LacksType database) (joinColumn model database table relationship side) := by
  obtain ⟨key, keyFound⟩ := (wellFormed.entityFormed member).exists_primaryKey
  have referenced := Entity.referencedField_none_eq_ok_iff.mpr keyFound
  have keyMember : key ∈ side.entity.fields := Entity.mem_of_referencedField referenced
  simp only [joinColumn, Model.primaryKeyType, referenced, ok_bind]
  refine .bind ?_ fun _ _ => failsOnly_ok
  intro error failed
  exact ⟨side.entity, member, key, keyMember, failed⟩

/-- A join table fails with one of its two columns only. -/
theorem joinTable?_fails
    (wellFormed : model.WellFormed)
    (member : entity ∈ model.entities)
    {relationship : Relationship}
    (declared : relationship ∈ entity.relationships) :
    FailsOnly (model.LacksType database) (joinTable? model database entity relationship) := by
  obtain ⟨target, targetFound, _⟩ := wellFormed.linksFound entity member relationship declared
  have targetMember : target ∈ model.entities := Model.mem_of_requireEntity targetFound
  simp only [joinTable?, targetFound, ok_bind]
  split
  · exact failsOnly_ok
  · refine .bind (failsOnly_collect ?_) fun _ _ => failsOnly_ok
    intro side sideMember
    simp only [joinSides, List.mem_cons, List.not_mem_nil, or_false] at sideMember
    rcases sideMember with isOwner | isTarget
    · subst isOwner
      exact joinColumn_fails wellFormed member
    · subst isTarget
      exact joinColumn_fails wellFormed targetMember

/-- Join tables fail only for a type that the database lacks. -/
theorem joinTablesOf_fails
    (wellFormed : model.WellFormed)
    (member : entity ∈ model.entities) :
    FailsOnly (model.LacksType database) (joinTablesOf model database entity) := by
  simp only [joinTablesOf]
  split
  · exact failsOnly_ok
  · next error failed =>
      refine failsOnly_error (failsOnly_collect ?_ error failed)
      intro relationship listed
      exact joinTable?_fails wellFormed member (List.mem_of_mem_filter listed)

/-! ## Units -/

/-- The unit of an entity of a well-formed model can be assembled unless a type is lacking. -/
theorem ofEntity_fails
    (wellFormed : model.WellFormed)
    (member : entity ∈ model.entities) :
    FailsOnly (model.LacksType database) (ofEntity model database entity) := by
  obtain ⟨uniques, uniquesFound⟩ := exists_uniqueConstraintsOf (wellFormed.entityFormed member)
  obtain ⟨indexes, indexesFound⟩ := exists_indexesOf (wellFormed.entityFormed member)
  simp only [ofEntity, uniquesFound, indexesFound, ok_bind]
  refine .bind ?_ fun _ _ => .bind (joinTablesOf_fails wellFormed member) fun _ _ => failsOnly_ok
  intro error failed
  obtain ⟨field, fieldMember, untyped⟩ := columnsOf_fails wellFormed member error failed
  exact ⟨entity, member, field, fieldMember, untyped⟩

/-- Every field of an entity whose unit is assembled has a type. -/
theorem UnitOf.exists_columnType
    {unit : TableUnit (List Statement)}
    (unitOf : UnitOf model database entity unit)
    (member : field ∈ entity.fields) :
    ∃ name, model.columnType database field = .ok name := by
  obtain ⟨table, _, tableOf, _⟩ := unitOf.table
  obtain ⟨column, _, columnOf⟩ := exists_right_of_forall₂ tableOf.columns member
  exact exists_columnType_of_columnBody columnOf.body

end TableUnit

end SchemaScript
