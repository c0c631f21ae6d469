import Mathlib.Data.List.Perm.Basic
import SchemaScript.Proofs.TableUnit.Indexes

/-!
# Requests for indexes

A request says whether an index is unique, its name and its columns.  An entity
makes one for each of its indexed fields and one for each index that it
declares, whose columns are found by any of their names.  The statements of its
table are those of its requests, each where it is first made: a request is
dropped only if one before it is the same in all three.
-/

namespace SchemaScript

open Sql

/-! ## First occurrences -/

section FirstOccurrences

variable {α : Type} [DecidableEq α] {items kept : List α}

/-- A list holds the items of another one once each, in the order in which they first occur. -/
structure FirstOccurrences (items kept : List α) : Prop where
  nodup : kept.Nodup
  mem_iff : ∀ item, item ∈ kept ↔ item ∈ items
  inOrder : kept.Pairwise fun item other => items.idxOf item < items.idxOf other

/-- Items that stay in a list stay in its order. -/
theorem idxOf_lt_of_filter
    {passes : α → Bool}
    {item other : α}
    (itemPasses : passes item = true)
    (otherPasses : passes other = true)
    (before : (items.filter passes).idxOf item < (items.filter passes).idxOf other) :
    items.idxOf item < items.idxOf other := by
  induction items with
  | nil =>
      exact before
  | cons first later inductionHypothesis =>
      by_cases firstPasses : passes first = true
      · rw [List.filter_cons_of_pos firstPasses] at before
        have otherLater : first ≠ other := by
          rintro rfl
          rw [List.idxOf_cons_self] at before
          exact Nat.not_lt_zero _ before
        by_cases isFirst : first = item
        · subst isFirst
          rw [List.idxOf_cons_self, List.idxOf_cons_ne later otherLater]
          exact Nat.succ_pos _
        · rw [List.idxOf_cons_ne _ isFirst, List.idxOf_cons_ne _ otherLater] at before
          rw [List.idxOf_cons_ne later isFirst, List.idxOf_cons_ne later otherLater]
          exact Nat.succ_lt_succ (inductionHypothesis (Nat.lt_of_succ_lt_succ before))
      · rw [List.filter_cons_of_neg firstPasses] at before
        have itemLater : first ≠ item := by
          rintro rfl
          exact firstPasses itemPasses
        have otherLater : first ≠ other := by
          rintro rfl
          exact firstPasses otherPasses
        rw [List.idxOf_cons_ne later itemLater, List.idxOf_cons_ne later otherLater]
        exact Nat.succ_lt_succ (inductionHypothesis before)

/-- Without repetitions, items stand in the order in which they first occur. -/
theorem pairwise_idxOf_eraseDups
    (items : List α) :
    items.eraseDups.Pairwise fun item other => items.idxOf item < items.idxOf other := by
  cases items with
  | nil =>
      exact .nil
  | cons first later =>
      have laterInOrder :=
        pairwise_idxOf_eraseDups (later.filter fun other => !other == first)
      rw [List.eraseDups_cons, List.pairwise_cons]
      have different
          {other : α}
          (member : other ∈ (later.filter fun other => !other == first).eraseDups) :
          first ≠ other := by
        rw [List.mem_eraseDups, List.mem_filter] at member
        rintro rfl
        simp at member
      constructor
      · intro other member
        rw [List.idxOf_cons_self, List.idxOf_cons_ne later (different member)]
        exact Nat.succ_pos _
      · apply laterInOrder.imp_of_mem
        intro item other member otherMember before
        have itemDifferent := different member
        have otherDifferent := different otherMember
        rw [List.idxOf_cons_ne later itemDifferent, List.idxOf_cons_ne later otherDifferent]
        apply Nat.succ_lt_succ
        exact
          idxOf_lt_of_filter (by simpa using itemDifferent.symm)
            (by simpa using otherDifferent.symm) before
termination_by items.length
decreasing_by exact Nat.lt_succ_of_le (List.length_filter_le _ _)

/-- The first occurrences are what is left when repetitions are erased. -/
theorem firstOccurrences_iff :
    FirstOccurrences items kept ↔ kept = items.eraseDups := by
  have erased : FirstOccurrences items items.eraseDups := by
    exact {
      nodup := nodup_eraseDups items
      mem_iff := fun _ => List.mem_eraseDups
      inOrder := pairwise_idxOf_eraseDups items }
  constructor
  · intro first
    have sameMembers : kept.Perm items.eraseDups := by
      rw [List.perm_ext_iff_of_nodup first.nodup erased.nodup]
      exact fun item => (first.mem_iff item).trans (erased.mem_iff item).symm
    apply sameMembers.eq_of_pairwise _ first.inOrder erased.inOrder
    intro item other _ _ before after
    exact (Nat.lt_asymm before after).elim
  · rintro rfl
    exact erased

end FirstOccurrences

namespace TableUnit

/-! ## What an entity asks for -/

/-- A request for an index of a table. -/
@[ext]
structure IndexRequest where
  unique : Bool
  name : String
  columns : List String
  deriving DecidableEq

namespace IndexRequest

/-- The request of an indexed field, whose name is derived. -/
def ofField (entity : Entity) (field : Field) : IndexRequest where
  unique := false
  name := indexName "idx" entity.tableName [field.columnName]
  columns := [field.columnName]

/-- The request of a declared index over some columns; its name is given or derived. -/
def ofIndex (entity : Entity) (index : Index) (columns : List String) : IndexRequest where
  unique := index.unique
  name :=
    index.name.getD (indexName (if index.unique then "uidx" else "idx") entity.tableName columns)
  columns

/-- The index of a table that a request asks for. -/
def definition (table : TableId) (request : IndexRequest) : IndexDefinition where
  name := request.name
  table
  columns := request.columns
  unique := request.unique

/-- The statement that creates the index. -/
def sql (target : Target) (table : TableId) (request : IndexRequest) : String :=
  (request.definition table).sql target

/-- Different requests are different definitions. -/
theorem definition_injective
    {table : TableId} :
    Function.Injective (definition table) := by
  intro request other same
  simp only [definition, IndexDefinition.mk.injEq, true_and] at same
  obtain ⟨sameName, sameColumns, sameUnique⟩ := same
  exact IndexRequest.ext sameUnique sameName sameColumns

/-- The statements of two requests are the same when all that they ask for is. -/
theorem sql_eq_iff
    {target : Target}
    {table : TableId}
    {request other : IndexRequest} :
    request.sql target table = other.sql target table ↔
      request.unique = other.unique ∧ request.name = other.name ∧
        request.columns = other.columns := by
  rw [← IndexRequest.ext_iff]
  constructor
  · intro same
    exact definition_injective (IndexDefinition.sql_injective same)
  · rintro rfl
    rfl

/-- The statements of requests are those of the indexes that they ask for. -/
theorem map_sql_definition
    {target : Target}
    {table : TableId}
    {requests : List IndexRequest} :
    (requests.map (definition table)).map (·.sql target) = requests.map (sql target table) := by
  rw [List.map_map]
  rfl

end IndexRequest

/-- A declared index asks for an index over the columns that its names find. -/
def Declares (entity : Entity) (index : Index) (request : IndexRequest) : Prop :=
  index.fields ≠ [] ∧
    ∃ columns, entity.Resolves index.fields columns ∧ request = .ofIndex entity index columns

/--
An entity asks for an index for each field that is indexed and no primary key,
in the order of its fields, and then for each index that it declares.
-/
def Requests (entity : Entity) (requests : List IndexRequest) : Prop :=
  ∃ declared,
    List.Forall₂ (Declares entity) entity.indexes declared ∧
      requests =
        (entity.fields.filter fun field => field.indexed && !field.isPrimaryKey).map
            (IndexRequest.ofField entity) ++
          declared

variable {entity : Entity}

/-- A declared index is built exactly from what it requests. -/
theorem declaredIndex_eq_ok_iff_declares
    {declared : Index}
    {index : IndexDefinition} :
    declaredIndex entity declared = .ok index ↔
      ∃ request, Declares entity declared request ∧ index = request.definition entity.tableId := by
  rw [declaredIndex_eq_ok_iff]
  constructor
  · rintro ⟨columns, found, rfl⟩
    obtain ⟨given, resolved⟩ := resolveColumns_eq_ok_iff.mp found
    exact ⟨_, ⟨given, columns, resolved, rfl⟩, rfl⟩
  · rintro ⟨_, ⟨given, columns, resolved, rfl⟩, rfl⟩
    exact ⟨columns, resolveColumns_eq_ok_iff.mpr ⟨given, resolved⟩, rfl⟩

/-- What an entity asks for are the indexes of its requests. -/
theorem requestedIndexes_eq_ok_iff
    {requested : List IndexDefinition} :
    requestedIndexes entity = .ok requested ↔
      ∃ requests, Requests entity requests ∧
        requested = requests.map (IndexRequest.definition entity.tableId) := by
  have collected
      {made : List IndexDefinition} :
      collect (declaredIndex entity) entity.indexes = .ok made ↔
        ∃ declared, List.Forall₂ (Declares entity) entity.indexes declared ∧
          made = declared.map (IndexRequest.definition entity.tableId) := by
    simp only [collect_eq_ok_iff, declaredIndex_eq_ok_iff_declares, forall₂_image_iff]
  have ofFields :
      entity.indexedFields.map (fieldIndex entity) =
        ((entity.fields.filter fun field => field.indexed && !field.isPrimaryKey).map
            (IndexRequest.ofField entity)).map
          (IndexRequest.definition entity.tableId) := by
    rw [List.map_map, Entity.indexedFields]
    rfl
  constructor
  · intro asked
    rw [requestedIndexes] at asked
    cases declaredMade : collect (declaredIndex entity) entity.indexes with
    | error error =>
        rw [declaredMade] at asked
        cases asked
    | ok made =>
        rw [declaredMade] at asked
        cases asked
        obtain ⟨declared, declares, rfl⟩ := collected.mp declaredMade
        exact ⟨_, ⟨declared, declares, rfl⟩, by rw [List.map_append, ofFields]⟩
  · rintro ⟨_, ⟨declared, declares, rfl⟩, rfl⟩
    rw [requestedIndexes, collected.mpr ⟨declared, declares, rfl⟩, List.map_append, ← ofFields]
    rfl

/-- The indexes of an entity are those of its requests, each where it is first made. -/
theorem indexesOf_eq_ok_iff_requests
    {indexes : List IndexDefinition} :
    indexesOf entity = .ok indexes ↔
      ∃ requests kept, Requests entity requests ∧ FirstOccurrences requests kept ∧
        indexes = kept.map (IndexRequest.definition entity.tableId) := by
  simp only [indexesOf_eq_ok_iff, requestedIndexes_eq_ok_iff, firstOccurrences_iff]
  constructor
  · rintro ⟨_, ⟨requests, asked, rfl⟩, rfl⟩
    exact ⟨requests, _, asked, rfl, eraseDups_map IndexRequest.definition_injective requests⟩
  · rintro ⟨requests, _, asked, rfl, rfl⟩
    exact
      ⟨_, ⟨requests, asked, rfl⟩, (eraseDups_map IndexRequest.definition_injective requests).symm⟩

/--
The statements of an entity's indexes are those of its requests, each where it
is first made.  Two requests have one statement exactly when they are equally
unique and have the same name and the same columns.
-/
theorem indexesOf_keepsFirst
    {target : Target}
    {statements : List String} :
    ((∃ indexes, indexesOf entity = .ok indexes ∧ statements = indexes.map (·.sql target)) ↔
        ∃ requests kept, Requests entity requests ∧ FirstOccurrences requests kept ∧
          statements = kept.map (IndexRequest.sql target entity.tableId)) ∧
      ∀ request other : IndexRequest,
        request.sql target entity.tableId = other.sql target entity.tableId ↔
          request.unique = other.unique ∧ request.name = other.name ∧
            request.columns = other.columns := by
  refine ⟨?_, fun _ _ => IndexRequest.sql_eq_iff⟩
  constructor
  · rintro ⟨_, made, rfl⟩
    obtain ⟨requests, kept, asked, first, rfl⟩ := indexesOf_eq_ok_iff_requests.mp made
    exact ⟨requests, kept, asked, first, IndexRequest.map_sql_definition⟩
  · rintro ⟨requests, kept, asked, first, rfl⟩
    have made := indexesOf_eq_ok_iff_requests.mpr ⟨requests, kept, asked, first, rfl⟩
    exact ⟨_, made, IndexRequest.map_sql_definition.symm⟩

/-- A column has one index when it is asked for as a relationship's, a field's and a column. -/
example :
    let index (name : String) : Index :=
      { name := some "home_games", fields := [name], unique := false }
    let game : Entity :=
      { Entity.named "Game" with
        fields := [{ Field.named "hosts" .int32 with columnName := "host_id" }]
        relationships :=
          [{ Relationship.linking "home" "Team" .manyToOne with fromField := "hosts" }]
        indexes := [index "home", index "hosts", index "host_id"] }
    indexesOf game =
      .ok [{ name := "home_games", table := game.tableId, columns := ["host_id"],
             unique := false }] := by
  rfl

end TableUnit

end SchemaScript
