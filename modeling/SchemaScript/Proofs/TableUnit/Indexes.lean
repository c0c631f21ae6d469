import SchemaScript.Proofs.Entity.Resolution
import SchemaScript.Proofs.Sql.Quoting
import SchemaScript.TableUnit.Constraints

/-!
# The indexes of a table

An entity asks for an index for each of its indexed fields and for each index
that it declares.  What is asked for twice is created once.  As the statement
of an index tells everything about it, this is the same whether indexes are
compared or their statements, in whatever way these are written.
-/

namespace SchemaScript

open Sql

/-! ## Lists without repetitions -/

section Repetitions

variable {α β : Type} [DecidableEq α] [DecidableEq β]

/-- Nothing stands twice in a list without repetitions. -/
theorem nodup_eraseDups
    (items : List α) :
    items.eraseDups.Nodup := by
  cases items with
  | nil =>
      exact List.nodup_nil
  | cons item later =>
      rw [List.eraseDups_cons, List.nodup_cons]
      refine ⟨by simp [List.mem_eraseDups], ?_⟩
      exact nodup_eraseDups (later.filter fun other => !other == item)
termination_by items.length
decreasing_by exact Nat.lt_succ_of_le (List.length_filter_le _ _)

/-- Repetitions are the same before and after items are replaced, if different ones stay so. -/
theorem eraseDups_map
    {replace : α → β}
    (injective : Function.Injective replace)
    (items : List α) :
    (items.map replace).eraseDups = items.eraseDups.map replace := by
  cases items with
  | nil =>
      rfl
  | cons item later =>
      have sameFilter :
          (later.map replace).filter (fun other => !other == replace item) =
            (later.filter fun other => !other == item).map replace := by
        rw [List.filter_map]
        congr 1
        apply List.filter_congr
        intro other _
        simp [injective.eq_iff]
      rw [List.map_cons, List.eraseDups_cons, List.eraseDups_cons, List.map_cons, sameFilter,
        eraseDups_map injective (later.filter fun other => !other == item)]
termination_by items.length
decreasing_by exact Nat.lt_succ_of_le (List.length_filter_le _ _)

/-- An item at the end is kept unless it stands in the list already. -/
theorem eraseDups_concat
    (items : List α)
    (item : α) :
    (items ++ [item]).eraseDups =
      if item ∈ items then items.eraseDups else items.eraseDups ++ [item] := by
  rw [List.eraseDups_append]
  by_cases already : item ∈ items
  · simp [List.removeAll, already]
  · simp [List.removeAll, already, List.eraseDups_cons]

end Repetitions

namespace TableUnit

variable {entity : Entity} {indexes : List IndexDefinition} {index : IndexDefinition}

/-- Names are resolved when there are some and each finds a field. -/
theorem resolveColumns_eq_ok_iff
    {names columns : List String}
    {what : String} :
    resolveColumns entity names what = .ok columns ↔
      names ≠ [] ∧ entity.Resolves names columns := by
  have step
      (name column : String) :
      (·.columnName) <$> entity.resolveField name = .ok column ↔
        ∃ field, entity.findField? name = some field ∧ column = field.columnName := by
    simp only [← Entity.resolveField_eq_ok_iff]
    cases entity.resolveField name <;> simp [Functor.map, Except.map, eq_comm]
  cases names with
  | nil =>
      simp [resolveColumns]
  | cons name later =>
      simp [resolveColumns, collect_eq_ok_iff, Entity.Resolves, step]

/-! ## Requests -/

/-- The indexes that an entity asks for: those of its fields, then those declared. -/
def requestedIndexes (entity : Entity) : Except SchemaError (List IndexDefinition) :=
  (fun declared => entity.indexedFields.map (fieldIndex entity) ++ declared) <$>
    collect (declaredIndex entity) entity.indexes

/-- The indexes of an entity are those that it asks for, each once. -/
theorem indexesOf_eq_ok_iff :
    indexesOf entity = .ok indexes ↔
      ∃ requested, requestedIndexes entity = .ok requested ∧ indexes = requested.eraseDups := by
  simp only [indexesOf, requestedIndexes]
  cases collect (declaredIndex entity) entity.indexes with
  | ok declared =>
      simp [eq_comm, Functor.map, Except.map]
  | error error =>
      simp [Functor.map, Except.map]

/-- No index is made twice. -/
theorem nodup_of_indexesOf
    (found : indexesOf entity = .ok indexes) :
    indexes.Nodup := by
  obtain ⟨requested, _, rfl⟩ := indexesOf_eq_ok_iff.mp found
  exact nodup_eraseDups requested

/-- An index of an entity is that of an indexed field or a declared one. -/
theorem cases_of_indexesOf
    (found : indexesOf entity = .ok indexes)
    (member : index ∈ indexes) :
    (∃ field ∈ entity.indexedFields, index = fieldIndex entity field) ∨
      ∃ declared ∈ entity.indexes, declaredIndex entity declared = .ok index := by
  obtain ⟨requested, asked, rfl⟩ := indexesOf_eq_ok_iff.mp found
  simp only [requestedIndexes] at asked
  cases collected : collect (declaredIndex entity) entity.indexes with
  | error error =>
      rw [collected] at asked
      cases asked
  | ok declared =>
      rw [collected] at asked
      cases asked
      rw [List.mem_eraseDups, List.mem_append] at member
      rcases member with ofField | ofDeclared
      · obtain ⟨field, fieldMember, rfl⟩ := List.mem_map.mp ofField
        exact .inl ⟨field, fieldMember, rfl⟩
      · exact .inr (exists_left_of_forall₂ (collect_eq_ok_iff.mp collected) ofDeclared)

/-- A declared index is over columns of the entity's table; its name is given or derived. -/
theorem declaredIndex_eq_ok_iff
    {declared : Index} :
    declaredIndex entity declared = .ok index ↔
      ∃ columns, resolveColumns entity declared.fields "index" = .ok columns ∧
        index = {
          name := declared.name.getD
            (indexName (if declared.unique then "uidx" else "idx") entity.tableName columns)
          table := entity.tableId
          columns
          unique := declared.unique } := by
  simp only [declaredIndex]
  cases resolveColumns entity declared.fields "index" with
  | ok columns =>
      simp only [Except.ok.injEq, exists_eq_left']
      exact eq_comm
  | error error =>
      simp

/-- Every index of an entity is on its table. -/
theorem table_of_indexesOf
    (found : indexesOf entity = .ok indexes)
    (member : index ∈ indexes) :
    index.table = entity.tableId := by
  rcases cases_of_indexesOf found member with ⟨_, _, rfl⟩ | ⟨_, _, made⟩
  · rfl
  · obtain ⟨_, _, rfl⟩ := declaredIndex_eq_ok_iff.mp made
    rfl

/-- The statements of an entity's indexes are those it asks for, each text once. -/
theorem sql_of_indexesOf
    (found : indexesOf entity = .ok indexes) :
    ∃ requested, requestedIndexes entity = .ok requested ∧
      ∀ target,
        indexes.map (·.sql target) = (requested.map (·.sql target)).eraseDups := by
  obtain ⟨requested, asked, rfl⟩ := indexesOf_eq_ok_iff.mp found
  refine ⟨requested, asked, ?_⟩
  intro target
  exact (eraseDups_map IndexDefinition.sql_injective requested).symm

end TableUnit

end SchemaScript
