import Mathlib.Data.List.Nodup
import SchemaScript.Model.Validation
import SchemaScript.Proofs.Entity.WellFormed

/-!
# Well-formed models

What a model keeps when it passes its checks.  Names and tables are gathered
while the checks run; from the outside this says that they are distinct.  The
same holds for the join tables, which are distinct throughout the model and
not only within one entity.
-/

namespace SchemaScript

/-- The name of a model passes exactly when it is there and has a hundred bytes at most. -/
theorem ModelMeta.validate_eq_ok_iff
    {info : ModelMeta}
    {outcome : Unit} :
    info.validate = .ok outcome ↔ info.name ≠ "" ∧ info.name.utf8ByteSize ≤ 100 := by
  simp [validate, bind_eq_ok_iff, require_eq_ok_iff]

namespace Model

/-- The identities of the join tables that some relationships of an entity declare. -/
def joinIdsOf (owner : Entity) (relationships : List Relationship) : List TableId :=
  (relationships.filter (·.isManyToMany)).map (joinTableId owner)

/-- The identities of the join tables that some entities declare. -/
def joinIds (entities : List Entity) : List TableId :=
  entities.flatMap fun owner => joinIdsOf owner owner.relationships

/-- A relationship leads to a field of an entity. -/
def LinkFound (model : Model) (relationship : Relationship) : Prop :=
  ∃ target, model.requireEntity relationship.toEntity = .ok target ∧
    ∃ field, target.referencedField relationship.targetField? = .ok field

/-- The two columns of a relationship's join table have different names. -/
def JoinColumnsDiffer (owner : Entity) (relationship : Relationship) : Prop :=
  relationship.isManyToMany = true →
    relationship.backwardKeyFor owner.tableName ≠ relationship.forwardKeyName

/-- What a model keeps when it passes its checks. -/
structure WellFormed (model : Model) : Prop where
  info : model.info.validate = .ok ()
  entitiesValid : ∀ entity ∈ model.entities, entity.validate = .ok ()
  namesDistinct : (model.entities.map (·.name)).Nodup
  tablesDistinct : (model.entities.map (·.tableId)).Nodup
  referencesFound :
    ∀ entity ∈ model.entities, ∀ field ∈ entity.fields, model.checkReference field = .ok ()
  linksFound :
    ∀ owner ∈ model.entities, ∀ relationship ∈ owner.relationships,
      model.LinkFound relationship
  joinColumnsDiffer :
    ∀ owner ∈ model.entities, ∀ relationship ∈ owner.relationships,
      JoinColumnsDiffer owner relationship
  joinsDistinct : (joinIds model.entities).Nodup

/-- An entity that a name finds is one of the model. -/
theorem mem_of_requireEntity
    {model : Model}
    {name : String}
    {entity : Entity}
    (found : model.requireEntity name = .ok entity) :
    entity ∈ model.entities := by
  simp only [requireEntity] at found
  split at found
  · next first firstFound =>
      cases found
      exact List.mem_of_find?_eq_some firstFound
  · cases found

/-! ## Names and tables -/

/-- Entities are distinct when they differ from each other and from those seen before. -/
theorem checkDistinctEntities_eq_ok_iff
    {names : List String}
    {tables : List TableId}
    {entities : List Entity}
    {outcome : Unit} :
    checkDistinctEntities names tables entities = .ok outcome ↔
      ((entities.map (·.name)).Nodup ∧ ∀ entity ∈ entities, entity.name ∉ names) ∧
        (entities.map (·.tableId)).Nodup ∧ ∀ entity ∈ entities, entity.tableId ∉ tables := by
  induction entities generalizing names tables with
  | nil =>
      simp [checkDistinctEntities]
  | cons first later inductionHypothesis =>
      by_cases nameSeen : first.name ∈ names
      · simp [checkDistinctEntities, nameSeen]
      · by_cases tableSeen : first.tableId ∈ tables
        · simp [checkDistinctEntities, nameSeen, tableSeen]
        · simp only [checkDistinctEntities, List.contains_eq_mem, nameSeen, tableSeen,
            decide_false, Bool.false_eq_true, if_false, inductionHypothesis, List.map_cons,
            List.nodup_cons, List.mem_map, List.mem_cons, forall_eq_or_imp, not_or, not_exists,
            not_and]
          grind

/-! ## Relationships and join tables -/

/-- A join table is found among those seen before exactly when one of them has its identity. -/
theorem ownerOf?_eq_none_iff
    {owners : JoinOwners}
    {table : TableId} :
    ownerOf? owners table = none ↔ table ∉ owners.map Prod.fst := by
  simp only [ownerOf?, Option.map_eq_none_iff, List.find?_eq_none, beq_iff_eq, List.mem_map,
    not_exists, not_and]

/-- A link adds its join table to those seen before, if it has one and that is new. -/
theorem checkLink_eq_ok_iff
    {model : Model}
    {owner : Entity}
    {owners seen : JoinOwners}
    {relationship : Relationship} :
    model.checkLink owner owners relationship = .ok seen ↔
      model.LinkFound relationship ∧
        if relationship.isManyToMany then
          relationship.backwardKeyFor owner.tableName ≠ relationship.forwardKeyName ∧
            joinTableId owner relationship ∉ owners.map Prod.fst ∧
            seen = (joinTableId owner relationship, owner.name) :: owners
        else
          seen = owners := by
  have joinChecked :
      checkJoinTable owner owners relationship = .ok seen ↔
        relationship.backwardKeyFor owner.tableName ≠ relationship.forwardKeyName ∧
          joinTableId owner relationship ∉ owners.map Prod.fst ∧
          seen = (joinTableId owner relationship, owner.name) :: owners := by
    rw [← ownerOf?_eq_none_iff]
    simp only [checkJoinTable]
    split
    · next sameColumn =>
        simp [sameColumn]
    · next columnsDiffer =>
        split
        · next earlier found =>
            simp [found]
        · next unseen =>
            simp only [Except.ok.injEq, ne_eq, columnsDiffer, not_false_eq_true, unseen,
              true_and]
            exact eq_comm
  simp only [checkLink, bind_eq_ok_iff, LinkFound]
  split
  · next manyToMany =>
      rw [joinChecked]
      constructor
      · rintro ⟨target, found, field, fieldFound, checked⟩
        exact ⟨⟨target, found, field, fieldFound⟩, checked⟩
      · rintro ⟨⟨target, found, field, fieldFound⟩, checked⟩
        exact ⟨target, found, field, fieldFound, checked⟩
  · next reference =>
      constructor
      · rintro ⟨target, found, field, fieldFound, same⟩
        cases same
        exact ⟨⟨target, found, field, fieldFound⟩, rfl⟩
      · rintro ⟨⟨target, found, field, fieldFound⟩, same⟩
        subst same
        exact ⟨target, found, field, fieldFound, rfl⟩

/-- The join tables of an entity's links are added to those seen before, all of them new. -/
theorem checkLinks_eq_ok_iff
    {model : Model}
    {owner : Entity}
    {owners seen : JoinOwners}
    {relationships : List Relationship} :
    model.checkLinks owner owners relationships = .ok seen ↔
      (∀ relationship ∈ relationships, model.LinkFound relationship) ∧
        (∀ relationship ∈ relationships, JoinColumnsDiffer owner relationship) ∧
        (joinIdsOf owner relationships).Nodup ∧
        (∀ table ∈ joinIdsOf owner relationships, table ∉ owners.map Prod.fst) ∧
        seen =
          ((joinIdsOf owner relationships).map fun table => (table, owner.name)).reverse ++
            owners := by
  induction relationships generalizing owners with
  | nil =>
      simp [checkLinks, joinIdsOf, eq_comm]
  | cons relationship later inductionHypothesis =>
      have split :
          model.checkLinks owner owners (relationship :: later) = .ok seen ↔
            ∃ next, model.checkLink owner owners relationship = .ok next ∧
              model.checkLinks owner next later = .ok seen := by
        cases checked : model.checkLink owner owners relationship <;>
          simp [checkLinks, checked]
      rw [split]
      simp only [checkLink_eq_ok_iff, inductionHypothesis]
      by_cases manyToMany : relationship.isManyToMany
      · simp only [manyToMany, if_true, joinIdsOf, JoinColumnsDiffer, List.filter_cons_of_pos,
          List.map_cons, List.nodup_cons, List.mem_cons, forall_eq_or_imp, List.reverse_cons,
          List.append_assoc, List.singleton_append, true_implies]
        constructor
        · rintro ⟨_, ⟨found, differ, new, rfl⟩, laterFound, laterDiffer, distinct, laterNew, rfl⟩
          simp only [List.map_cons, List.mem_cons, not_or] at laterNew
          exact
            ⟨⟨found, laterFound⟩, ⟨differ, laterDiffer⟩,
              ⟨fun member => (laterNew _ member).1 rfl, distinct⟩,
              ⟨new, fun table member => (laterNew table member).2⟩, rfl⟩
        · rintro
            ⟨⟨found, laterFound⟩, ⟨differ, laterDiffer⟩, ⟨fresh, distinct⟩, ⟨new, laterNew⟩,
              rfl⟩
          refine
            ⟨_, ⟨found, differ, new, rfl⟩, laterFound, laterDiffer, distinct, ?_, rfl⟩
          intro table member
          simp only [List.map_cons, List.mem_cons, not_or]
          exact ⟨fun same => fresh (same ▸ member), laterNew table member⟩
      · simp only [manyToMany, Bool.false_eq_true, if_false, joinIdsOf, JoinColumnsDiffer,
          not_false_eq_true, List.filter_cons_of_neg, List.mem_cons, forall_eq_or_imp,
          false_implies, true_and]
        constructor
        · rintro ⟨_, ⟨found, rfl⟩, laterFound, rest⟩
          exact ⟨⟨found, laterFound⟩, rest⟩
        · rintro ⟨⟨found, laterFound⟩, rest⟩
          exact ⟨owners, ⟨found, rfl⟩, laterFound, rest⟩

/-- The join tables of all entities are new when they are met. -/
theorem checkConnections_eq_ok_iff
    {model : Model}
    {owners : JoinOwners}
    {entities : List Entity}
    {outcome : Unit} :
    model.checkConnections owners entities = .ok outcome ↔
      (∀ entity ∈ entities, ∀ field ∈ entity.fields, model.checkReference field = .ok ()) ∧
        (∀ owner ∈ entities, ∀ relationship ∈ owner.relationships,
          model.LinkFound relationship) ∧
        (∀ owner ∈ entities, ∀ relationship ∈ owner.relationships,
          JoinColumnsDiffer owner relationship) ∧
        (joinIds entities).Nodup ∧ ∀ table ∈ joinIds entities, table ∉ owners.map Prod.fst := by
  induction entities generalizing owners with
  | nil =>
      simp [checkConnections, joinIds]
  | cons entity later inductionHypothesis =>
      have split :
          model.checkConnections owners (entity :: later) = .ok outcome ↔
            checkAll model.checkReference entity.fields = .ok () ∧
              ∃ seen, model.checkLinks entity owners entity.relationships = .ok seen ∧
                model.checkConnections seen later = .ok outcome := by
        cases referred : checkAll model.checkReference entity.fields <;>
          cases linked : model.checkLinks entity owners entity.relationships <;>
          simp [checkConnections, referred, linked]
      have known
          (table : TableId) :
          table ∈ (((joinIdsOf entity entity.relationships).map fun table =>
              (table, entity.name)).reverse ++ owners).map Prod.fst ↔
            table ∈ joinIdsOf entity entity.relationships ∨ table ∈ owners.map Prod.fst := by
        simp
      rw [split]
      simp only [checkAll_eq_ok_iff, checkLinks_eq_ok_iff, inductionHypothesis, joinIds,
        List.mem_cons, forall_eq_or_imp, List.flatMap_cons, List.nodup_append, List.mem_append]
      constructor
      · rintro
          ⟨referred, _, ⟨found, differ, distinct, new, rfl⟩, laterReferred, laterFound,
            laterDiffer, laterDistinct, laterNew⟩
        simp only [known, not_or] at laterNew
        refine
          ⟨⟨referred, laterReferred⟩, ⟨found, laterFound⟩, ⟨differ, laterDiffer⟩,
            ⟨distinct, laterDistinct, ?_⟩, ?_⟩
        · rintro table member _ laterMember rfl
          exact (laterNew table laterMember).1 member
        · rintro table (member | laterMember)
          · exact new table member
          · exact (laterNew table laterMember).2
      · rintro
          ⟨⟨referred, laterReferred⟩, ⟨found, laterFound⟩, ⟨differ, laterDiffer⟩,
            ⟨distinct, laterDistinct, apart⟩, new⟩
        refine
          ⟨referred, _, ⟨found, differ, distinct, fun table member => new table (.inl member),
            rfl⟩, laterReferred, laterFound, laterDiffer, laterDistinct, ?_⟩
        intro table laterMember
        rw [known, not_or]
        exact ⟨fun member => apart table member table laterMember rfl, new table (.inr laterMember)⟩

/-! ## Whole models -/

/-- A model passes its checks exactly when it is well-formed. -/
theorem validate_eq_ok_iff
    {model : Model}
    {outcome : Unit} :
    model.validate = .ok outcome ↔ model.WellFormed := by
  simp only [validate, bind_eq_ok_iff, checkAll_eq_ok_iff, checkDistinctEntities_eq_ok_iff,
    checkConnections_eq_ok_iff, List.map_nil, List.not_mem_nil, not_false_eq_true, implies_true,
    and_true]
  constructor
  · rintro
      ⟨_, info, _, entitiesValid, _, ⟨namesDistinct, tablesDistinct⟩, referencesFound,
        linksFound, joinColumnsDiffer, joinsDistinct⟩
    exact {
      info
      entitiesValid
      namesDistinct
      tablesDistinct
      referencesFound
      linksFound
      joinColumnsDiffer
      joinsDistinct }
  · intro wellFormed
    exact
      ⟨(), wellFormed.info, (), wellFormed.entitiesValid, (),
        ⟨wellFormed.namesDistinct, wellFormed.tablesDistinct⟩, wellFormed.referencesFound,
        wellFormed.linksFound, wellFormed.joinColumnsDiffer, wellFormed.joinsDistinct⟩

namespace WellFormed

variable {model : Model}

/-- The entities of a well-formed model are well-formed. -/
theorem entityFormed
    (wellFormed : model.WellFormed)
    {entity : Entity}
    (member : entity ∈ model.entities) :
    entity.WellFormed :=
  Entity.validate_eq_ok_iff.mp (wellFormed.entitiesValid entity member)

/-- A model that passes its checks has a name. -/
theorem name_ne_empty
    (wellFormed : model.WellFormed) :
    model.info.name ≠ "" :=
  (ModelMeta.validate_eq_ok_iff.mp wellFormed.info).1

/-- Entities of a well-formed model that have one name are the same. -/
theorem eq_of_name_eq
    (wellFormed : model.WellFormed)
    {entity other : Entity}
    (member : entity ∈ model.entities)
    (otherMember : other ∈ model.entities)
    (sameName : entity.name = other.name) :
    entity = other :=
  List.inj_on_of_nodup_map wellFormed.namesDistinct member otherMember sameName

/-- Entities of a well-formed model that have one table are the same. -/
theorem eq_of_tableId_eq
    (wellFormed : model.WellFormed)
    {entity other : Entity}
    (member : entity ∈ model.entities)
    (otherMember : other ∈ model.entities)
    (sameTable : entity.tableId = other.tableId) :
    entity = other :=
  List.inj_on_of_nodup_map wellFormed.tablesDistinct member otherMember sameTable

end WellFormed

end Model

end SchemaScript
