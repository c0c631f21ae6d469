import SchemaScript.Proofs.Script.Success
import SchemaScript.Proofs.Script.Tables
import SchemaScript.Proofs.TableUnit.Outline

/-!
# Scripts of relaxed models

A relationship whose constraint is dropped keeps its column or its join table;
only the foreign keys are left out.  The checks of a model do not look at
constraints and neither do references between entities, and foreign keys that
are left out cannot close a cycle.  So a script is still written, although its
tables may come in another order.
-/

namespace SchemaScript

open Sql TableUnit

/-! ## Relaxed relationships -/

/-- A relationship is left as it is or its constraint is dropped. -/
def Relationship.RelaxesTo (relationship other : Relationship) : Prop :=
  other = relationship ∨ other = { relationship with dbConstraint := false }

namespace Relationship.RelaxesTo

variable {relationship other : Relationship}

/-- What does not look at the constraint of a relationship stays the same. -/
theorem view_eq
    (relaxes : relationship.RelaxesTo other)
    {α : Type}
    (view : Relationship → α)
    (blind : ∀ each : Relationship, view { each with dbConstraint := false } = view each) :
    view other = view relationship := by
  rcases relaxes with rfl | rfl
  · rfl
  · exact blind relationship

/-- A constraint that is there has not been dropped. -/
theorem eq_of_enforced
    (relaxes : relationship.RelaxesTo other)
    (enforced : other.dbConstraint = true) :
    other = relationship := by
  rcases relaxes with same | rfl
  · exact same
  · cases enforced

theorem isManyToMany
    (relaxes : relationship.RelaxesTo other) :
    other.isManyToMany = relationship.isManyToMany :=
  relaxes.view_eq Relationship.isManyToMany fun _ => rfl

end Relationship.RelaxesTo

/-- What a search finds in a list is related to what it finds in the same place of another one. -/
theorem find?_of_forall₂
    {α β : Type}
    {relation : α → β → Prop}
    {test : α → Bool}
    {otherTest : β → Bool}
    {items : List α}
    {others : List β}
    (related : List.Forall₂ relation items others)
    (sameTest : ∀ item other, relation item other → otherTest other = test item)
    {other : β}
    (found : others.find? otherTest = some other) :
    ∃ item, items.find? test = some item ∧ relation item other := by
  induction related with
  | nil =>
      cases found
  | @cons first otherFirst later otherLater headRelated _ inductionHypothesis =>
      rw [List.find?_cons, sameTest first otherFirst headRelated] at found
      rw [List.find?_cons]
      cases passes : test first with
      | true =>
          rw [passes] at found
          cases found
          exact ⟨first, rfl, headRelated⟩
      | false =>
          rw [passes] at found
          exact inductionHypothesis found

/-! ## Relaxed entities -/

/-- Constraints of some relationships of an entity are dropped. -/
def Entity.RelaxesTo (entity other : Entity) : Prop :=
  ∃ relationships,
    other = { entity with relationships } ∧
      List.Forall₂ Relationship.RelaxesTo entity.relationships relationships

namespace Entity.RelaxesTo

variable {entity other : Entity}

/-- Relaxing keeps the outline of an entity. -/
theorem alike
    (relaxes : entity.RelaxesTo other) :
    entity.Alike other := by
  obtain ⟨relationships, rfl, related⟩ := relaxes
  have sameOutlines :
      relationships.map Relationship.outline = entity.relationships.map Relationship.outline :=
    map_eq_of_forall₂ related fun _ _ each => each.view_eq Relationship.outline fun _ => rfl
  simp only [Entity.Alike, Entity.outline, sameOutlines]

theorem fields
    (relaxes : entity.RelaxesTo other) :
    other.fields = entity.fields := by
  obtain ⟨_, rfl, _⟩ := relaxes
  rfl

/-- Relaxing keeps an entity well-formed. -/
theorem wellFormed
    (relaxes : entity.RelaxesTo other)
    (wellFormed : entity.WellFormed) :
    other.WellFormed := by
  -- a name may find a field through a relationship, but only by its outline
  have covered
      {names : List String}
      (covers : entity.Covered names) :
      other.Covered names := by
    intro name listed
    obtain ⟨field, found⟩ := covers name listed
    have alikeFound := relaxes.alike.findField? name
    rw [found] at alikeFound
    obtain ⟨otherField, otherFound, _⟩ := Option.map_eq_some_iff.mp alikeFound
    exact ⟨otherField, otherFound⟩
  obtain ⟨relationships, rfl, related⟩ := relaxes
  refine { wellFormed with
    relationshipsValid := ?_
    ownersFound := ?_
    groupsCovered := fun group member => covered (wellFormed.groupsCovered group member)
    indexesCovered := fun index member => covered (wellFormed.indexesCovered index member) }
  · intro relationship member
    obtain ⟨before, beforeMember, each⟩ := exists_left_of_forall₂ related member
    rw [each.view_eq Relationship.validate fun _ => rfl]
    exact wellFormed.relationshipsValid before beforeMember
  · intro relationship member
    obtain ⟨before, beforeMember, each⟩ := exists_left_of_forall₂ related member
    have sameOwner : entity.OwnerFound relationship = entity.OwnerFound before :=
      each.view_eq entity.OwnerFound fun _ => rfl
    exact sameOwner ▸ wellFormed.ownersFound before beforeMember

/-- The join tables of an entity keep their names. -/
theorem joinIdsOf_eq
    (relaxes : entity.RelaxesTo other) :
    Model.joinIdsOf other other.relationships = Model.joinIdsOf entity entity.relationships := by
  obtain ⟨relationships, rfl, related⟩ := relaxes
  have keptRelated :
      List.Forall₂ Relationship.RelaxesTo
        (entity.relationships.filter (·.isManyToMany)) (relationships.filter (·.isManyToMany)) := by
    apply List.rel_filter _ related
    intro relationship other each
    simp only [each.isManyToMany]
  exact
    map_eq_of_forall₂ keptRelated fun _ _ each =>
      each.view_eq (Model.joinTableId entity) fun _ => rfl

/-- A field that carries an enforced relationship has carried it before. -/
theorem relationshipFor?_eq_some
    (relaxes : entity.RelaxesTo other)
    {field : Field}
    {relationship : Relationship}
    (carried : other.relationshipFor? field = some relationship)
    (enforced : relationship.dbConstraint = true) :
    entity.relationshipFor? field = some relationship := by
  obtain ⟨relationships, rfl, related⟩ := relaxes
  obtain ⟨before, found, each⟩ :=
    find?_of_forall₂ related
      (fun _ _ each =>
        each.view_eq (fun each => each.isReference && field.answersTo each.fieldName)
          fun _ => rfl)
      carried
  rw [each.eq_of_enforced enforced]
  exact found

end Entity.RelaxesTo

/-! ## Relaxed models -/

/-- Constraints of some relationships of a model are dropped. -/
structure Model.RelaxesTo (model other : Model) : Prop where
  info : other.info = model.info
  entities : List.Forall₂ Entity.RelaxesTo model.entities other.entities

namespace Model.RelaxesTo

variable {model other : Model} {database : Database}

/-- Relaxing keeps the outlines of a model. -/
theorem alike
    (relaxes : model.RelaxesTo other) :
    model.Alike other :=
  map_eq_of_forall₂ relaxes.entities fun _ _ each => each.alike

theorem tableIds_eq
    (relaxes : model.RelaxesTo other) :
    other.entities.map (·.tableId) = model.entities.map (·.tableId) :=
  map_eq_of_forall₂ relaxes.entities fun _ _ each => each.alike.tableId

theorem joinIds_eq
    (relaxes : model.RelaxesTo other) :
    joinIds other.entities = joinIds model.entities := by
  have sameEach :
      other.entities.map (fun owner => joinIdsOf owner owner.relationships) =
        model.entities.map fun owner => joinIdsOf owner owner.relationships :=
    map_eq_of_forall₂ relaxes.entities fun _ _ each => each.joinIdsOf_eq
  rw [joinIds, List.flatMap_def, sameEach, ← List.flatMap_def, joinIds]

theorem undeclaredJoinIds_eq
    (relaxes : model.RelaxesTo other) :
    other.undeclaredJoinIds = model.undeclaredJoinIds := by
  have sameDeclared
      (id : TableId) :
      (other.entityOfTable? id).isNone = (model.entityOfTable? id).isNone := by
    simp only [← Option.not_isSome, relaxes.alike.isSome_entityOfTable?]
  simp only [undeclaredJoinIds, relaxes.joinIds_eq, sameDeclared]

/-- A model that passes its checks still does so when constraints are dropped. -/
theorem wellFormed
    (relaxes : model.RelaxesTo other)
    (wellFormed : model.WellFormed) :
    other.WellFormed where
  info := relaxes.info ▸ wellFormed.info
  entitiesValid := by
    intro entity member
    obtain ⟨before, beforeMember, each⟩ := exists_left_of_forall₂ relaxes.entities member
    exact Entity.validate_eq_ok_iff.mpr (each.wellFormed (wellFormed.entityFormed beforeMember))
  namesDistinct := by
    have sameNames : other.entities.map (·.name) = model.entities.map (·.name) :=
      map_eq_of_forall₂ relaxes.entities fun _ _ each => each.alike.name
    exact sameNames ▸ wellFormed.namesDistinct
  tablesDistinct := relaxes.tableIds_eq ▸ wellFormed.tablesDistinct
  referencesFound := by
    intro entity member field fieldMember
    obtain ⟨before, beforeMember, each⟩ := exists_left_of_forall₂ relaxes.entities member
    rw [relaxes.alike.checkReference]
    exact wellFormed.referencesFound before beforeMember field (each.fields ▸ fieldMember)
  linksFound := by
    intro owner member relationship declared
    obtain ⟨_, beforeMember, _, rfl, related⟩ := exists_left_of_forall₂ relaxes.entities member
    obtain ⟨before, beforeDeclared, each⟩ := exists_left_of_forall₂ related declared
    have sameLink : other.LinkFound relationship = other.LinkFound before :=
      each.view_eq other.LinkFound fun _ => rfl
    exact sameLink ▸ relaxes.alike.linkFound (wellFormed.linksFound _ beforeMember _ beforeDeclared)
  joinColumnsDiffer := by
    intro owner member relationship declared
    obtain ⟨entity, beforeMember, _, rfl, related⟩ :=
      exists_left_of_forall₂ relaxes.entities member
    obtain ⟨before, beforeDeclared, each⟩ := exists_left_of_forall₂ related declared
    have sameColumns : JoinColumnsDiffer entity relationship = JoinColumnsDiffer entity before :=
      each.view_eq (JoinColumnsDiffer entity) fun _ => rfl
    have differ := wellFormed.joinColumnsDiffer entity beforeMember before beforeDeclared
    exact sameColumns ▸ differ
  joinsDistinct := relaxes.joinIds_eq ▸ wellFormed.joinsDistinct

/-- The foreign keys that are left lead where they led before. -/
theorem refersTo
    (relaxes : model.RelaxesTo other)
    {source target : TableId}
    (refers : other.RefersTo source target) :
    model.RefersTo source target := by
  obtain ⟨entity, member, rfl, field, fieldMember, key, shown, rfl⟩ := refers
  obtain ⟨before, beforeMember, each⟩ := exists_left_of_forall₂ relaxes.entities member
  obtain ⟨isReference, relationship, carried, enforced, keyOf⟩ :=
    shownReference_eq_some_iff.mp shown
  have carriedBefore := each.relationshipFor?_eq_some carried enforced
  have keyOfBefore : KeyOf other before relationship field key :=
    { keyOf with fromTable := keyOf.fromTable.trans each.alike.tableName }
  have shownBefore : shownReference model before field = .ok (some key) := by
    rw [← shownReference_eq_of_alike relaxes.alike, shownReference_eq_some_iff]
    exact ⟨isReference, relationship, carriedBefore, enforced, keyOfBefore⟩
  exact
    ⟨before, beforeMember, each.alike.tableId.symm, field, each.fields ▸ fieldMember, key,
      shownBefore, rfl⟩

/-- A model that has a plan still has one when constraints are dropped. -/
theorem exists_plan
    (relaxes : model.RelaxesTo other)
    (planned : ∃ plan, Plan.ofModel model database = .ok plan) :
    ∃ plan, Plan.ofModel other database = .ok plan := by
  have wellFormed := Plan.wellFormed_of_planned planned
  apply Plan.exists_ofModel_of_covering planned (relaxes.wellFormed wellFormed)
  · intro entity member
    obtain ⟨before, beforeMember, each⟩ := exists_left_of_forall₂ relaxes.entities member
    exact ⟨before, beforeMember, each.alike.namespaceName?, each.fields⟩
  · intro field name named
    rw [relaxes.alike.columnType rfl]
    exact named
  · intro source target
    exact relaxes.refersTo

end Model.RelaxesTo

/-! ## Scripts -/

/--
When constraints are dropped from a model that a script is written for, one is
still written, and it creates the same tables and the same join tables.
-/
theorem generate_relaxed
    {model other : Model}
    {target : Target}
    {script : Script}
    (relaxes : model.RelaxesTo other)
    (generated : Script.generate model target = .ok script) :
    ∃ otherScript, Script.generate other target = .ok otherScript ∧
      otherScript.tables.Perm script.tables ∧
      otherScript.joinTables.Perm script.joinTables := by
  obtain ⟨plan, made, rfl⟩ := Script.plan_of_generate generated
  obtain ⟨otherPlan, otherMade⟩ := relaxes.exists_plan ⟨plan, made⟩
  have planOf := Plan.planOf_of_ofModel made
  have otherPlanOf := Plan.planOf_of_ofModel otherMade
  refine ⟨Script.ofPlan other.info.name target otherPlan, ?_, ?_, ?_⟩
  · rw [Script.generate, otherMade]
  · have tables := otherPlanOf.tables_perm
    rw [relaxes.tableIds_eq] at tables
    exact tables.trans planOf.tables_perm.symm
  · have joinTables := otherPlanOf.joinTables_perm
    rw [relaxes.undeclaredJoinIds_eq] at joinTables
    exact joinTables.trans planOf.joinTables_perm.symm

/-- An entity without constraints on what leads to teams. -/
def withoutTeamConstraints (entity : Entity) : Entity :=
  { entity with
    relationships := entity.relationships.map fun relationship =>
      if relationship.toEntity = "Team" then
        { relationship with dbConstraint := false }
      else
        relationship }

/-- The league without constraints on what leads to teams; games still refer to games. -/
def looseLeagueModel : Model :=
  { leagueModel with entities := leagueModel.entities.map withoutTeamConstraints }

/-- A league without constraints on what leads to teams has the same tables. -/
theorem generate_relaxed_leagueModel :
    leagueModel.RelaxesTo looseLeagueModel ∧
      ∃ script, Script.generate leagueModel Target.standard = .ok script ∧
        ∃ otherScript, Script.generate looseLeagueModel Target.standard = .ok otherScript ∧
          otherScript.tables.Perm script.tables ∧
          otherScript.joinTables.Perm script.joinTables := by
  have relaxes : leagueModel.RelaxesTo looseLeagueModel := by
    refine ⟨rfl, List.forall₂_map_right_iff.mpr (List.forall₂_same.mpr fun entity _ => ?_)⟩
    refine ⟨_, rfl, List.forall₂_map_right_iff.mpr (List.forall₂_same.mpr fun each _ => ?_)⟩
    split
    · exact .inr rfl
    · exact .inl rfl
  obtain ⟨script, generated⟩ := exists_generate_leagueModel
  exact ⟨relaxes, script, generated, generate_relaxed relaxes generated⟩

end SchemaScript
