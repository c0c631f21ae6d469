import SchemaScript.Proofs.Entity.Completion

namespace SchemaScript.Entity

/-!
# Attached relationships

A relationship is attached in one of three ways: by a call that fails when its
field is obstructed, by a builder that never fails, and by declaring it and
normalizing the entity.  On a normalized entity the three give the same, and
where the call fails the others are refused.  A call that fails changes nothing,
so that after any calls every relationship finds its field if it did at first.
-/

variable {entity : Entity} {relationship : Relationship}

/-- The entity with one more relationship and no field for it. -/
def declaring (entity : Entity) (relationship : Relationship) : Entity :=
  { entity with relationships := entity.relationships ++ [relationship] }

/-! ## One relationship -/

/-- The builder adds the field that the relationship lacks. -/
theorem Lacks.withRelationship_eq
    (lacks : entity.Lacks relationship) :
    entity.withRelationship relationship =
      (entity.withField relationship.referenceField).declaring relationship := by
  have absent : entity.hasField relationship.fieldName = false := by
    rw [hasField, ← List.isSome_find?]
    exact Option.isSome_eq_false_iff.mpr (Option.isNone_iff_eq_none.mpr lacks.2)
  simp [withRelationship, declaring, withField, lacks.1, absent]

/-- A relationship whose column is there is declared and nothing else. -/
theorem withRelationship_eq_of_not_lacks
    (notLacks : ¬ entity.Lacks relationship) :
    entity.withRelationship relationship = entity.declaring relationship := by
  have notWanted :
      (relationship.isReference && !entity.hasField relationship.fieldName) = false := by
    rw [Bool.and_eq_false_imp, Bool.not_eq_false', hasField, ← List.isSome_find?]
    intro owns
    exact Option.isSome_iff_ne_none.mpr fun absent => notLacks ⟨owns, absent⟩
  simp [withRelationship, declaring, notWanted]

/-- A call does what the builder does, unless the relationship is obstructed. -/
theorem addRelationship_eq_of_not_obstructs
    (unobstructed : ¬ entity.Obstructs relationship) :
    entity.addRelationship relationship = (entity.withRelationship relationship, .ok ()) := by
  rcases entity.owner_cases relationship with found | lacks | obstructs
  · rw [addRelationship, found.addReferenceField_eq,
      withRelationship_eq_of_not_lacks found.not_lacks, declaring]
  · rw [addRelationship, lacks.addReferenceField_eq, lacks.withRelationship_eq, declaring]
  · exact (unobstructed obstructs).elim

/-- A relationship whose column is taken is refused, and nothing changes. -/
theorem Obstructs.addRelationship_eq
    (obstructs : entity.Obstructs relationship) :
    entity.addRelationship relationship =
      (entity, .error (entity.fieldTaken relationship)) := by
  rw [addRelationship, obstructs.addReferenceField_eq]

/-- The builder leaves an obstructed relationship obstructed, and the entity is refused. -/
theorem Obstructs.exists_refusal
    (obstructs : entity.Obstructs relationship) :
    ∃ refusal, (entity.withRelationship relationship).validate = .error refusal := by
  cases outcome : (entity.withRelationship relationship).validate with
  | error refusal =>
      exact ⟨refusal, rfl⟩
  | ok _ =>
      have wellFormed := validate_eq_ok_iff.mp outcome
      rw [withRelationship_eq_of_not_lacks fun lacks => lacks.not_obstructs obstructs] at wellFormed
      have found : (entity.declaring relationship).OwnerFound relationship :=
        wellFormed.ownersFound relationship (by simp [declaring])
      exact (found.not_obstructs obstructs).elim

/-! ## Normalizing a declared relationship -/

/-- Relationships that find their fields are passed over. -/
theorem addReferenceFields_append_of_found
    {earlier later : List Relationship}
    (found : ∀ relationship ∈ earlier, entity.OwnerFound relationship) :
    entity.addReferenceFields (earlier ++ later) = entity.addReferenceFields later := by
  induction earlier with
  | nil =>
      rfl
  | cons first rest inductionHypothesis =>
      obtain ⟨firstFound, restFound⟩ := List.forall_mem_cons.mp found
      rw [List.cons_append, addReferenceFields, firstFound.addReferenceField_eq]
      exact inductionHypothesis restFound

/-- Only the field of the new relationship is added to a normalized entity. -/
theorem normalize_declaring
    (normal : entity.normalize = (entity, .ok ())) :
    (entity.declaring relationship).normalize =
      (entity.declaring relationship).addReferenceFields [relationship] := by
  obtain ⟨filled, found⟩ := normalize_eq_self_iff.mp normal
  have declaredFilled :
      (entity.declaring relationship).fillNames = entity.declaring relationship := by
    have same : (entity.declaring relationship).fillNames =
        entity.fillNames.declaring relationship := rfl
    rw [same, filled]
  rw [normalize, declaredFilled]
  refine addReferenceFields_append_of_found fun other declared => ?_
  exact (found other declared).append (List.append_nil entity.fields).symm

/--
On a normalized entity a call that succeeds gives what the builder gives and what
declaring the relationship and normalizing the entity gives.  A call that fails
does so as normalizing does, and what the builder gives does not pass its checks.
-/
theorem addRelationship_agrees
    (normal : entity.normalize = (entity, .ok ()))
    (relationship : Relationship) :
    (∀ extended, entity.addRelationship relationship = (extended, .ok ()) →
      entity.withRelationship relationship = extended ∧
        (entity.declaring relationship).normalize = (extended, .ok ())) ∧
      ∀ left error, entity.addRelationship relationship = (left, .error error) →
        (entity.declaring relationship).normalize =
            (entity.declaring relationship, .error error) ∧
          ∃ refusal, (entity.withRelationship relationship).validate = .error refusal := by
  rw [normalize_declaring normal, addReferenceFields]
  by_cases obstructs : entity.Obstructs relationship
  · rw [obstructs.addRelationship_eq]
    have declaredObstructs : (entity.declaring relationship).Obstructs relationship := obstructs
    constructor
    · rintro extended ⟨⟩
    · rintro left error ⟨⟩
      rw [declaredObstructs.addReferenceField_eq]
      exact ⟨rfl, obstructs.exists_refusal⟩
  · rw [addRelationship_eq_of_not_obstructs obstructs]
    constructor
    · rintro extended ⟨⟩
      refine ⟨rfl, ?_⟩
      rcases entity.owner_cases relationship with found | lacks | isObstructed
      · have declaredFound : (entity.declaring relationship).OwnerFound relationship := found
        rw [declaredFound.addReferenceField_eq, withRelationship_eq_of_not_lacks found.not_lacks]
        rfl
      · have declaredLacks : (entity.declaring relationship).Lacks relationship := lacks
        rw [declaredLacks.addReferenceField_eq, lacks.withRelationship_eq]
        rfl
      · exact (obstructs isObstructed).elim
    · rintro left error ⟨⟩

/-- An event with a plain field of the name that a relationship to teams would want. -/
def crowdedEvent : Entity :=
  ((Entity.named "Event").withField (.named "team_id" .int32)).withRelationship
    (.linking "venue" "Place" .manyToOne)

/-- An event's team. -/
def teamLink : Relationship :=
  .linking "team" "Team" .manyToOne

/-- The host of an event, a person. -/
def hostLink : Relationship :=
  .linking "host" "Person" .oneToOne

/-- An event takes a host in all three ways and refuses a team in all of them. -/
theorem addRelationship_agrees_crowdedEvent :
    crowdedEvent.normalize = (crowdedEvent, .ok ()) ∧
      crowdedEvent.addRelationship hostLink = (crowdedEvent.withRelationship hostLink, .ok ()) ∧
      (crowdedEvent.declaring hostLink).normalize =
        (crowdedEvent.withRelationship hostLink, .ok ()) ∧
      crowdedEvent.addRelationship teamLink =
        (crowdedEvent, .error (crowdedEvent.fieldTaken teamLink)) ∧
      (crowdedEvent.declaring teamLink).normalize =
        (crowdedEvent.declaring teamLink, .error (crowdedEvent.fieldTaken teamLink)) ∧
      ∃ refusal, (crowdedEvent.withRelationship teamLink).validate = .error refusal := by
  have normal : crowdedEvent.normalize = (crowdedEvent, .ok ()) := by rfl
  have hostAdded :
      crowdedEvent.addRelationship hostLink =
        (crowdedEvent.withRelationship hostLink, .ok ()) := by rfl
  have teamRefused :
      crowdedEvent.addRelationship teamLink =
        (crowdedEvent, .error (crowdedEvent.fieldTaken teamLink)) := by rfl
  obtain ⟨hostAgrees, _⟩ := addRelationship_agrees normal hostLink
  obtain ⟨_, teamAgrees⟩ := addRelationship_agrees normal teamLink
  exact
    ⟨normal, hostAdded, (hostAgrees _ hostAdded).2, teamRefused, teamAgrees _ _ teamRefused⟩

/-! ## Many calls -/

/-- The entity after some calls, each made on what the one before it left. -/
def afterCalls (entity : Entity) (calls : List Relationship) : Entity :=
  calls.foldl (fun current call => (current.addRelationship call).1) entity

/-- The builder adds the relationship and at most one field, and nothing else. -/
theorem exists_withRelationship_eq
    (entity : Entity)
    (relationship : Relationship) :
    ∃ added, (added = [] ∨ added = [relationship.referenceField]) ∧
      entity.withRelationship relationship =
        { entity with
          fields := entity.fields ++ added
          relationships := entity.relationships ++ [relationship] } := by
  by_cases lacks : entity.Lacks relationship
  · exact ⟨[relationship.referenceField], .inr rfl, lacks.withRelationship_eq⟩
  · refine ⟨[], .inl rfl, ?_⟩
    rw [withRelationship_eq_of_not_lacks lacks, List.append_nil, declaring]

/-- A relationship that is not obstructed finds its field once it is attached. -/
theorem ownerFound_withRelationship
    (unobstructed : ¬ entity.Obstructs relationship) :
    (entity.withRelationship relationship).OwnerFound relationship := by
  rcases entity.owner_cases relationship with found | lacks | obstructs
  · rw [withRelationship_eq_of_not_lacks found.not_lacks]
    exact found
  · rw [lacks.withRelationship_eq]
    exact lacks.ownerFound rfl
  · exact (unobstructed obstructs).elim

/-- Every call keeps what the relationships find, also one that fails. -/
theorem OwnersFound.addRelationship
    (found : entity.OwnersFound)
    (relationship : Relationship) :
    (entity.addRelationship relationship).1.OwnersFound := by
  by_cases obstructs : entity.Obstructs relationship
  · rw [obstructs.addRelationship_eq]
    exact found
  · rw [addRelationship_eq_of_not_obstructs obstructs]
    have newFound := ownerFound_withRelationship obstructs
    obtain ⟨added, _, grown⟩ := entity.exists_withRelationship_eq relationship
    rw [grown] at newFound ⊢
    intro other declared
    rcases List.mem_append.mp declared with old | new
    · exact (found other old).append rfl
    · rw [List.mem_singleton.mp new]
      exact newFound

/-- What holds at first holds after any calls. -/
theorem OwnersFound.afterCalls
    (found : entity.OwnersFound)
    (calls : List Relationship) :
    (entity.afterCalls calls).OwnersFound := by
  induction calls generalizing entity with
  | nil =>
      exact found
  | cons first later inductionHypothesis =>
      exact inductionHypothesis (found.addRelationship first)

/--
After any calls, the next one keeps what the relationships find.  It succeeds
when its relationship is not obstructed, and then adds the relationship and at
most one field, at the end; otherwise it leaves the entity as it was.
-/
theorem addRelationship_afterCalls
    (found : entity.OwnersFound)
    (earlier : List Relationship)
    (call : Relationship)
    {before after : Entity}
    {outcome : Except SchemaError Unit}
    (reached : entity.afterCalls earlier = before)
    (called : before.addRelationship call = (after, outcome)) :
    before.OwnersFound ∧ after.OwnersFound ∧
      match outcome with
      | .ok () =>
          ¬ before.Obstructs call ∧
            ∃ added, (added = [] ∨ added = [call.referenceField]) ∧
              after =
                { before with
                  fields := before.fields ++ added
                  relationships := before.relationships ++ [call] }
      | .error _ => before.Obstructs call ∧ after = before := by
  have foundBefore : before.OwnersFound := reached ▸ found.afterCalls earlier
  have foundAfter := foundBefore.addRelationship call
  rw [called] at foundAfter
  refine ⟨foundBefore, foundAfter, ?_⟩
  by_cases obstructs : before.Obstructs call
  · rw [obstructs.addRelationship_eq] at called
    cases called
    exact ⟨obstructs, rfl⟩
  · rw [addRelationship_eq_of_not_obstructs obstructs] at called
    cases called
    exact ⟨obstructs, before.exists_withRelationship_eq call⟩

/-- Calls of which the first and the last but one fail, and two share a field. -/
def eventCalls : List Relationship :=
  [teamLink, hostLink, { Relationship.linking "organizer" "Person" .manyToOne with
    fromField := "host_id" }, { teamLink with relationType := .oneToOne },
    .linking "guests" "Person" (.manyToMany "")]

/--
After calls of which some fail, an event holds what the others added, and one
more that fails leaves it as it is.
-/
theorem addRelationship_afterCalls_crowdedEvent :
    crowdedEvent.OwnersFound ∧
      (crowdedEvent.afterCalls eventCalls).fields.map (·.name) =
        ["id", "team_id", "venue_id", "host_id"] ∧
      (crowdedEvent.afterCalls eventCalls).relationships.map (·.name) =
        ["venue", "host", "organizer", "guests"] ∧
      (crowdedEvent.afterCalls eventCalls).Obstructs teamLink ∧
      ((crowdedEvent.afterCalls eventCalls).addRelationship teamLink).1 =
        crowdedEvent.afterCalls eventCalls ∧
      ((crowdedEvent.afterCalls eventCalls).addRelationship hostLink).1.OwnersFound := by
  have found : crowdedEvent.OwnersFound :=
    (normalize_eq_self_iff.mp (by rfl : crowdedEvent.normalize = (crowdedEvent, .ok ()))).2
  have refused :=
    addRelationship_afterCalls found eventCalls teamLink rfl
      (by rfl : (crowdedEvent.afterCalls eventCalls).addRelationship teamLink =
        (_, .error ((crowdedEvent.afterCalls eventCalls).fieldTaken teamLink)))
  have accepted :=
    addRelationship_afterCalls found eventCalls hostLink rfl
      (by rfl : (crowdedEvent.afterCalls eventCalls).addRelationship hostLink = (_, .ok ()))
  obtain ⟨_, _, obstructs, unchanged⟩ := refused
  exact
    ⟨found, by decide +kernel, by decide +kernel, obstructs, unchanged, accepted.2.1⟩

end SchemaScript.Entity
