import SchemaScript.Proofs.Report.Warnings
import SchemaScript.Proofs.TableUnit.Failure
import SchemaScript.Proofs.TableUnit.IndexRequests

/-!
# Indexes that are declared twice

A report warns of an index that lists the same names as one declared before
it, and says that the two are created once.  An index is in fact left out when
one before it asks for the same, and neither implies the other.  Two indexes
over the same names can differ in being unique or in the names that they are
given, and two that list different names can be over the same columns.
-/

namespace SchemaScript

open Sql

namespace TableUnit

variable {entity : Entity} {index other : Index}

/-! ## Indexes that ask for the same -/

/-- Two indexes of an entity ask for one index of its table. -/
def AsksAlike (entity : Entity) (index other : Index) : Prop :=
  ∃ request, Declares entity index request ∧ Declares entity other request

/-- Indexes over the same names ask alike when they are equally unique and have one name. -/
theorem asksAlike_iff_of_fields_eq
    (given : index.fields ≠ [])
    (sameFields : other.fields = index.fields) :
    AsksAlike entity other index ↔
      ∃ columns, entity.Resolves index.fields columns ∧ other.unique = index.unique ∧
        (IndexRequest.ofIndex entity other columns).name =
          (IndexRequest.ofIndex entity index columns).name := by
  constructor
  · rintro ⟨_, ⟨_, columns, otherResolves, rfl⟩, ⟨_, others, resolves, same⟩⟩
    rw [sameFields] at otherResolves
    have sameColumns : columns = others := otherResolves.eq resolves
    subst sameColumns
    have sameUnique := congrArg IndexRequest.unique same
    exact ⟨columns, resolves, sameUnique, congrArg IndexRequest.name same⟩
  · rintro ⟨columns, resolves, sameUnique, sameName⟩
    have otherGiven : other.fields ≠ [] := by
      rw [sameFields]
      exact given
    have otherResolves : entity.Resolves other.fields columns := by
      rw [sameFields]
      exact resolves
    have same : IndexRequest.ofIndex entity other columns = .ofIndex entity index columns :=
      IndexRequest.ext sameUnique sameName rfl
    exact ⟨_, ⟨otherGiven, columns, otherResolves, rfl⟩, ⟨given, columns, resolves, same⟩⟩

/-! ## Indexes that are left out -/

/-- An entity with the given indexes for its own. -/
def withIndexes (entity : Entity) (indexes : List Index) : Entity :=
  { entity with indexes }

/-- A declared index is left out, as the statement of one before it is the same. -/
structure Dropped (entity : Entity) (target : Target) (declaration : Rule.Declaration) :
    Prop where
  repeated :
    ∃ definition, declaredIndex entity declaration.index = .ok definition ∧
      ∃ other ∈ declaration.earlier, ∃ earlierDefinition,
        declaredIndex entity other = .ok earlierDefinition ∧
          earlierDefinition.sql target = definition.sql target
  /-- The table has the same indexes without it. -/
  notAdded :
    indexesOf (withIndexes entity (declaration.earlier ++ [declaration.index])) =
      indexesOf (withIndexes entity declaration.earlier)

/-- An index that an earlier one has already asked for adds none. -/
theorem indexesOf_withIndexes_append
    {earlier : List Index}
    {made : List IndexDefinition}
    {definition : IndexDefinition}
    (earlierMade : collect (declaredIndex entity) earlier = .ok made)
    (indexMade : declaredIndex entity index = .ok definition)
    (known : definition ∈ made) :
    indexesOf (withIndexes entity (earlier ++ [index])) =
      indexesOf (withIndexes entity earlier) := by
  have allMade :
      collect (declaredIndex entity) (earlier ++ [index]) = .ok (made ++ [definition]) := by
    rw [collect_eq_ok_iff] at earlierMade ⊢
    exact List.rel_append earlierMade (.cons indexMade .nil)
  have requested
      (indexes : List Index)
      (definitions : List IndexDefinition)
      (collected : collect (declaredIndex entity) indexes = .ok definitions) :
      indexesOf (withIndexes entity indexes) =
        .ok (entity.indexedFields.map (fieldIndex entity) ++ definitions).eraseDups := by
    have sameMade : collect (declaredIndex (withIndexes entity indexes)) indexes =
        .ok definitions := collected
    rw [indexesOf]
    simp only [withIndexes] at sameMade ⊢
    rw [sameMade]
    rfl
  rw [requested _ _ allMade, requested _ _ earlierMade, ← List.append_assoc,
    List.eraseDups_append]
  have nothingNew :
      [definition].removeAll (entity.indexedFields.map (fieldIndex entity) ++ made) = [] := by
    simp [List.removeAll, known]
  rw [nothingNew, List.eraseDups_nil, List.append_nil]

/-- A declared index is left out exactly when one before it asks for the same. -/
theorem dropped_iff
    (wellFormed : entity.WellFormed)
    {target : Target}
    {declaration : Rule.Declaration}
    (member : declaration ∈ Rule.declarations entity) :
    Dropped entity target declaration ↔
      ∃ other ∈ declaration.earlier, AsksAlike entity other declaration.index := by
  constructor
  · rintro ⟨⟨definition, made, other, otherMember, earlierDefinition, otherMade, sameSql⟩, _⟩
    obtain ⟨request, declares, rfl⟩ := declaredIndex_eq_ok_iff_declares.mp made
    obtain ⟨otherRequest, otherDeclares, rfl⟩ := declaredIndex_eq_ok_iff_declares.mp otherMade
    have sameRequest : otherRequest = request :=
      IndexRequest.definition_injective (IndexDefinition.sql_injective sameSql)
    subst sameRequest
    exact ⟨other, otherMember, otherRequest, otherDeclares, declares⟩
  · rintro ⟨other, otherMember, request, otherDeclares, declares⟩
    have made : declaredIndex entity declaration.index = .ok (request.definition entity.tableId) :=
      declaredIndex_eq_ok_iff_declares.mpr ⟨request, declares, rfl⟩
    have otherMade : declaredIndex entity other = .ok (request.definition entity.tableId) :=
      declaredIndex_eq_ok_iff_declares.mpr ⟨request, otherDeclares, rfl⟩
    refine ⟨⟨_, made, other, otherMember, _, otherMade, rfl⟩, ?_⟩
    obtain ⟨later, listed⟩ := Rule.mem_declarations.mp member
    have related :
        ∃ made,
          List.Forall₂ (fun index definition => declaredIndex entity index = .ok definition)
            declaration.earlier made := by
      apply exists_forall₂
      intro index earlierMember
      apply exists_declaredIndex wellFormed
      rw [listed]
      exact List.mem_append_left _ earlierMember
    obtain ⟨definitions, earlierMade⟩ := related
    obtain ⟨definition, known, sameMade⟩ := exists_right_of_forall₂ earlierMade otherMember
    rw [otherMade, Except.ok.injEq] at sameMade
    subst sameMade
    exact indexesOf_withIndexes_append (collect_eq_ok_iff.mpr earlierMade) made known

/-- When a declared index is left out, beside when it is warned of. -/
structure IndexFate (entity : Entity) (target : Target) (declaration : Rule.Declaration) :
    Prop where
  dropped_iff :
    Dropped entity target declaration ↔
      ∃ other ∈ declaration.earlier, AsksAlike entity other declaration.index
  /-- Of indexes over the same names one can be left out for another all the same. -/
  alike_iff :
    ∀ other ∈ declaration.earlier, other.fields = declaration.index.fields →
      (AsksAlike entity other declaration.index ↔
        ∃ columns, entity.Resolves declaration.index.fields columns ∧
          other.unique = declaration.index.unique ∧
          (IndexRequest.ofIndex entity other columns).name =
            (IndexRequest.ofIndex entity declaration.index columns).name)
  repeated :
    declaration.index ∈ declaration.earlier →
      declaration.listsAgain = true ∧ Dropped entity target declaration
  /-- A warning is right where the names that indexes list tell what they ask for. -/
  truthful :
    (∀ other ∈ declaration.earlier,
        other.fields = declaration.index.fields ↔ AsksAlike entity other declaration.index) →
      (declaration.listsAgain = true ↔ Dropped entity target declaration)

/-- Every declared index of a well-formed entity meets its fate. -/
theorem indexFate_of_wellFormed
    (wellFormed : entity.WellFormed)
    {target : Target}
    {declaration : Rule.Declaration}
    (member : declaration ∈ Rule.declarations entity) :
    IndexFate entity target declaration := by
  obtain ⟨later, listed⟩ := Rule.mem_declarations.mp member
  have declared : declaration.index ∈ entity.indexes := by
    rw [listed]
    exact List.mem_append_right _ List.mem_cons_self
  have dropped :
      Dropped entity target declaration ↔
        ∃ other ∈ declaration.earlier, AsksAlike entity other declaration.index :=
    dropped_iff wellFormed member
  have listsAgain_iff :
      declaration.listsAgain = true ↔
        ∃ other ∈ declaration.earlier, other.fields = declaration.index.fields := by
    simp [Rule.Declaration.listsAgain]
  refine {
    dropped_iff := dropped
    alike_iff := ?_
    repeated := ?_
    truthful := ?_ }
  · intro other _ sameFields
    have given := (Index.validate_eq_ok_iff.mp (wellFormed.indexesValid _ declared)).1
    exact asksAlike_iff_of_fields_eq given sameFields
  · intro again
    obtain ⟨definition, made⟩ := exists_declaredIndex wellFormed declared
    obtain ⟨request, declares, _⟩ := declaredIndex_eq_ok_iff_declares.mp made
    exact
      ⟨listsAgain_iff.mpr ⟨_, again, rfl⟩,
        dropped.mpr ⟨_, again, request, declares, declares⟩⟩
  · intro told
    rw [listsAgain_iff, dropped]
    exact exists_congr fun other => and_congr_right fun earlier => told other earlier

end TableUnit

open TableUnit

/-! ## Warnings of valid models -/

/--
On a model that passes its checks the rule on indexes warns of each index that
lists the same names as one before it.  Left out is each index for which one
before it asks for the same.
-/
theorem duplicateIndexes_warned_and_dropped
    {model : Model}
    {target : Target}
    (valid : model.validate = .ok ()) :
    (Rule.indexes.check model).warnings =
        (model.entities.flatMap fun entity =>
          ((Rule.declarations entity).filter (·.listsAgain)).map
            (Rule.Declaration.warning entity)) ∧
      ∀ entity ∈ model.entities, ∀ declaration ∈ Rule.declarations entity,
        IndexFate entity target declaration := by
  have wellFormed := Model.validate_eq_ok_iff.mp valid
  refine ⟨Rule.indexes_warnings wellFormed, ?_⟩
  intro entity member declaration declared
  exact indexFate_of_wellFormed (wellFormed.entityFormed member) declared

/-- An index over the aliases of players. -/
def aliasIndex : Index where
  name := none
  fields := ["alias"]
  unique := false

/-- Players, whose home is indexed as a relationship and as a column. -/
def player : Entity :=
  { ((Entity.named "Player").withField (.named "alias" .string)).withRelationship
      (.linking "home" "Team" .manyToOne) with
    indexes := [
      aliasIndex,
      { aliasIndex with unique := true },
      { aliasIndex with fields := ["home"] },
      { aliasIndex with fields := ["home_id"] }] }

/-- A model of teams and players. -/
def playerModel : Model where
  info := .named "Players"
  entities := [Entity.named "Team", player]

theorem playerModel_valid :
    playerModel.validate = .ok () := by
  decide +kernel

theorem player_mem :
    player ∈ playerModel.entities :=
  List.mem_cons_of_mem _ List.mem_cons_self

/-- The index of players that repeats one but for being unique. -/
def uniqueAlias : Rule.Declaration where
  earlier := [aliasIndex]
  index := { aliasIndex with unique := true }

/-- The index of players that repeats one under another name. -/
def homeColumn : Rule.Declaration where
  earlier :=
    [aliasIndex, { aliasIndex with unique := true }, { aliasIndex with fields := ["home"] }]
  index := { aliasIndex with fields := ["home_id"] }

theorem uniqueAlias_mem :
    uniqueAlias ∈ Rule.declarations player := by
  decide

theorem homeColumn_mem :
    homeColumn ∈ Rule.declarations player := by
  decide

/-- Of two indexes of a player that are warned of, one is written and the other one dropped. -/
theorem duplicateIndexes_warned_and_dropped_playerModel :
    playerModel.validate = .ok () ∧
      (Rule.indexes.check playerModel).warnings =
        (playerModel.entities.flatMap fun entity =>
          ((Rule.declarations entity).filter (·.listsAgain)).map
            (Rule.Declaration.warning entity)) ∧
      player ∈ playerModel.entities ∧
      (uniqueAlias ∈ Rule.declarations player ∧
        IndexFate player Target.standard uniqueAlias) ∧
      homeColumn ∈ Rule.declarations player ∧
        IndexFate player Target.standard homeColumn := by
  obtain ⟨warned, fates⟩ := duplicateIndexes_warned_and_dropped playerModel_valid
  exact
    ⟨playerModel_valid, warned, player_mem,
      ⟨uniqueAlias_mem, fates player player_mem uniqueAlias uniqueAlias_mem⟩,
      homeColumn_mem, fates player player_mem homeColumn homeColumn_mem⟩

/-- The only warning on a valid model is of an index that is created, and another is left out. -/
theorem playerModel_warnings_mislead :
    playerModel.validate = .ok () ∧
      player ∈ playerModel.entities ∧
      (Rule.indexes.check playerModel).warnings = [Rule.Declaration.warning player uniqueAlias] ∧
      (uniqueAlias ∈ Rule.declarations player ∧ ¬ Dropped player Target.standard uniqueAlias) ∧
      homeColumn ∈ Rule.declarations player ∧ Dropped player Target.standard homeColumn := by
  have wellFormed : player.WellFormed :=
    (Model.validate_eq_ok_iff.mp playerModel_valid).entityFormed player_mem
  refine
    ⟨playerModel_valid, player_mem, by decide +kernel, ⟨uniqueAlias_mem, ?_⟩, homeColumn_mem, ?_⟩
  · rw [dropped_iff wellFormed uniqueAlias_mem]
    rintro ⟨other, earlier, _, ⟨_, _, _, rfl⟩, ⟨_, _, _, same⟩⟩
    rw [List.mem_singleton.mp earlier] at same
    have sameUnique : false = true := congrArg IndexRequest.unique same
    cases sameUnique
  · rw [dropped_iff wellFormed homeColumn_mem]
    have resolves
        (name : String)
        (found : (player.findField? name).map (·.columnName) = some "home_id") :
        player.Resolves [name] ["home_id"] := by
      obtain ⟨field, isField, column⟩ := Option.map_eq_some_iff.mp found
      exact .cons ⟨field, isField, column.symm⟩ .nil
    refine
      ⟨{ aliasIndex with fields := ["home"] }, by decide,
        .ofIndex player aliasIndex ["home_id"], ?_, ?_⟩
    · exact ⟨by decide, ["home_id"], resolves "home" (by decide +kernel), rfl⟩
    · exact ⟨by decide, ["home_id"], resolves "home_id" (by decide +kernel), rfl⟩

end SchemaScript
