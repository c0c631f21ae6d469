import SchemaScript.Proofs.Model.ColumnType
import SchemaScript.Proofs.TableUnit.ForeignKeys

/-!
# Units in models that find the same entities

A unit looks at its model only to find entities by name and to see which
tables are declared.  Whatever it found there it also finds in a model that
knows the same entities, and so it is a unit of that model as well.
-/

namespace SchemaScript

/-- Whatever entity a name finds in one model it finds in the other. -/
def Model.FoundIn (model other : Model) : Prop :=
  ∀ name entity,
    model.requireEntity name = .ok entity → other.requireEntity name = .ok entity

/-- Two models declare the same tables. -/
def Model.DeclaresAlike (model other : Model) : Prop :=
  ∀ id, (other.entityOfTable? id).isNone = (model.entityOfTable? id).isNone

variable {model other : Model} {database : Database}

/-- A model finds the entities of one whose entities it has, if it has no two of one name. -/
theorem Model.foundIn_of_subset
    (subset : model.entities ⊆ other.entities)
    (namesDistinct : (other.entities.map (·.name)).Nodup) :
    model.FoundIn other := by
  intro name entity found
  have foundFirst : model.entity? name = some entity := by
    simp only [requireEntity] at found
    split at found
    · next first firstFound =>
        cases found
        exact firstFound
    · cases found
  have named := List.find?_some foundFirst
  have member : entity ∈ other.entities := subset (List.mem_of_find?_eq_some foundFirst)
  have foundInOther : other.entity? name = some entity := by
    apply find?_eq_some_of_unique member named
    intro another anotherMember anotherNamed
    apply List.inj_on_of_nodup_map namesDistinct anotherMember member
    rw [beq_iff_eq] at named anotherNamed
    exact anotherNamed.trans named.symm
  rw [requireEntity, foundInOther]

namespace Model.FoundIn

/-! ## Types -/

/-- A reference finds the same field when entities are added. -/
theorem referencedBy
    (found : model.FoundIn other)
    {entity name : String}
    {field : Field}
    (refers : model.referencedBy entity name = .ok field) :
    other.referencedBy entity name = .ok field := by
  rw [referencedBy_eq_bind, bind_eq_ok_iff] at refers ⊢
  obtain ⟨target, targetFound, fieldFound⟩ := refers
  exact ⟨target, found entity target targetFound, fieldFound⟩

/-- References end in the same type when entities are added. -/
theorem followReferences
    (found : model.FoundIn other)
    {start dataType concrete : DataType}
    {steps : Nat}
    (followed : model.followReferences start steps dataType = .ok concrete) :
    other.followReferences start steps dataType = .ok concrete := by
  induction steps generalizing dataType with
  | zero =>
      cases followed
  | succ steps inductionHypothesis =>
      cases dataType with
      | reference entity field =>
          rw [Model.followReferences] at followed ⊢
          split at followed
          · next target refers =>
              rw [found.referencedBy refers]
              exact inductionHypothesis followed
          · cases followed
      | _ =>
          exact followed

/-- A column keeps its type when entities are added. -/
theorem columnType
    (found : model.FoundIn other)
    {field : Field}
    {name : String}
    (typed : model.columnType database field = .ok name) :
    other.columnType database field = .ok name := by
  rw [columnType_eq_ok_iff] at typed ⊢
  obtain ⟨concrete, followed, named⟩ := typed
  exact ⟨concrete, found.followReferences followed, named⟩

/-- A key keeps its type when entities are added. -/
theorem primaryKeyType
    (found : model.FoundIn other)
    {entity : Entity}
    {name : String}
    (typed : model.primaryKeyType database entity = .ok name) :
    other.primaryKeyType database entity = .ok name := by
  simp only [Model.primaryKeyType] at typed ⊢
  split at typed
  · exact found.columnType typed
  · cases typed

end Model.FoundIn

namespace TableUnit

open Sql

/-! ## Columns -/

/-- The body of a column stays when entities are added. -/
theorem columnBody_of_foundIn
    (found : model.FoundIn other)
    {field : Field}
    {body : ColumnBody}
    (made : columnBody model database field = .ok body) :
    columnBody other database field = .ok body := by
  simp only [columnBody] at made ⊢
  split at made
  · exact made
  · simp only [plainBody, bind_eq_ok_iff] at made ⊢
    obtain ⟨sqlType, typed, rest⟩ := made
    exact ⟨sqlType, found.columnType typed, rest⟩

/-- The key of a column stays when entities are added. -/
theorem shownReference_of_foundIn
    (found : model.FoundIn other)
    {entity : Entity}
    {field : Field}
    {key? : Option ForeignKey}
    (shown : shownReference model entity field = .ok key?) :
    shownReference other entity field = .ok key? := by
  by_cases isReference : field.isReference
  · simp only [shownReference, isReference, if_true, foreignKey?] at shown ⊢
    cases carried : entity.relationshipFor? field with
    | none =>
        simpa only [carried] using shown
    | some relationship =>
        simp only [carried] at shown ⊢
        split at shown
        · next enforced =>
            simp only [enforced, if_true, bind_eq_ok_iff] at shown ⊢
            obtain ⟨target, targetFound, rest⟩ := shown
            exact ⟨target, found _ target targetFound, rest⟩
        · next notEnforced =>
            simpa only [notEnforced, Bool.false_eq_true, if_false] using shown
  · simpa only [shownReference, isReference, Bool.false_eq_true, if_false] using shown

/-- The table of an entity stays when others are added. -/
theorem TableOf.of_foundIn
    (found : model.FoundIn other)
    {entity : Entity}
    {table : TableDefinition}
    (tableOf : TableOf model database entity table) :
    TableOf other database entity table where
  id := tableOf.id
  uniques := tableOf.uniques
  comment := tableOf.comment
  columns := tableOf.columns.imp fun _ _ columnOf => {
    name := columnOf.name
    body := columnBody_of_foundIn found columnOf.body
    reference := shownReference_of_foundIn found columnOf.reference
    comment := columnOf.comment }

/-! ## Join tables -/

/-- A join table stays when entities are added. -/
theorem JoinOf.of_foundIn
    (found : model.FoundIn other)
    {owner : Entity}
    {relationship : Relationship}
    {join : JoinTable (List Statement)}
    (joinOf : JoinOf model database owner relationship join) :
    JoinOf other database owner relationship join := by
  obtain ⟨sameId, target, columns, targetFound, columnsFound, sameBody⟩ := joinOf
  refine ⟨sameId, target, columns, found _ target targetFound, ?_, sameBody⟩
  apply columnsFound.imp
  intro side column columnFound
  simp only [joinColumn, bind_eq_ok_iff] at columnFound ⊢
  obtain ⟨sqlType, typed, rest⟩ := columnFound
  exact ⟨sqlType, found.primaryKeyType typed, rest⟩

/-! ## Units -/

/-- A unit of a model is one of every model that finds and declares the same. -/
theorem UnitOf.of_foundIn
    (found : model.FoundIn other)
    (declares : model.DeclaresAlike other)
    {entity : Entity}
    {unit : TableUnit (List Statement)}
    (unitOf : UnitOf model database entity unit) :
    UnitOf other database entity unit where
  id := unitOf.id
  table := by
    obtain ⟨table, indexes, tableOf, rest⟩ := unitOf.table
    exact ⟨table, indexes, tableOf.of_foundIn found, rest⟩
  joinTables := by
    have sameJoining : joiningRelationships other entity = joiningRelationships model entity := by
      simp only [joiningRelationships, declares _]
    rw [sameJoining]
    exact unitOf.joinTables.imp fun _ _ joinOf => joinOf.of_foundIn found

/-- Two units differ in their join tables at most. -/
def SameBlock (unit other : TableUnit (List Statement)) : Prop :=
  other = { unit with joinTables := other.joinTables }

/-- The units of an entity have the same block in every model that finds what its model finds. -/
theorem UnitOf.sameBlock_of_foundIn
    (found : model.FoundIn other)
    {entity : Entity}
    {unit otherUnit : TableUnit (List Statement)}
    (unitOf : UnitOf model database entity unit)
    (otherOf : UnitOf other database entity otherUnit) :
    SameBlock unit otherUnit := by
  have mixed : UnitOf other database entity { unit with joinTables := otherUnit.joinTables } := {
    id := unitOf.id
    joinTables := otherOf.joinTables
    table := by
      obtain ⟨table, indexes, tableOf, rest⟩ := unitOf.table
      exact ⟨table, indexes, tableOf.of_foundIn found, rest⟩ }
  rw [← ofEntity_eq_ok_iff] at otherOf mixed
  rw [otherOf] at mixed
  exact Except.ok.inj mixed

end TableUnit

end SchemaScript
