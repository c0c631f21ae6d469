import SchemaScript.Proofs.Entity.WellFormed

namespace SchemaScript.Entity

/-!
# The fields that relationships own

A single-valued relationship finds the field that it owns, lacks it, or meets a
field of that name that is no reference.  In the first case nothing has to be
added, in the second one field is added at the end, and in the third the
addition fails without a change.  Fields that are added at the end never take
from a relationship what it has found.
-/

variable {entity extended : Entity} {relationship : Relationship}
  {relationships : List Relationship} {field : Field}

/-- No field has the name that a single-valued relationship wants. -/
def Lacks (entity : Entity) (relationship : Relationship) : Prop :=
  relationship.isReference = true ∧ entity.fieldNamed? relationship.fieldName = none

instance :
    Decidable (entity.Lacks relationship) :=
  inferInstanceAs (Decidable (_ ∧ _))

/-- A field that is no reference has the name that a single-valued relationship wants. -/
def Obstructs (entity : Entity) (relationship : Relationship) : Prop :=
  relationship.isReference = true ∧
    ∃ field, entity.fieldNamed? relationship.fieldName = some field ∧ field.isReference = false

/-- Every single-valued relationship of an entity finds a reference. -/
def OwnersFound (entity : Entity) : Prop :=
  ∀ relationship ∈ entity.relationships, entity.OwnerFound relationship

/-! ## Three cases -/

/-- The column of a relationship is there, missing or taken. -/
theorem owner_cases
    (entity : Entity)
    (relationship : Relationship) :
    entity.OwnerFound relationship ∨ entity.Lacks relationship ∨
      entity.Obstructs relationship := by
  simp only [OwnerFound, Lacks, Obstructs]
  cases relationship.isReference with
  | false =>
      simp
  | true =>
      cases entity.fieldNamed? relationship.fieldName with
      | none =>
          simp
      | some field =>
          cases isReference : field.isReference <;> simp [isReference]

/-- What is missing is not taken. -/
theorem Lacks.not_obstructs
    (lacks : entity.Lacks relationship) :
    ¬ entity.Obstructs relationship := by
  rintro ⟨_, field, named, _⟩
  rw [lacks.2] at named
  cases named

/-- What is there is not missing. -/
theorem OwnerFound.not_lacks
    (found : entity.OwnerFound relationship) :
    ¬ entity.Lacks relationship := by
  intro lacks
  obtain ⟨field, named, _⟩ := found lacks.1
  rw [lacks.2] at named
  cases named

/-- What is there for the relationship is not taken. -/
theorem OwnerFound.not_obstructs
    (found : entity.OwnerFound relationship) :
    ¬ entity.Obstructs relationship := by
  rintro ⟨owns, field, named, plain⟩
  obtain ⟨other, otherNamed, isReference⟩ := found owns
  rw [named] at otherNamed
  cases otherNamed
  rw [plain] at isReference
  cases isReference

/-! ## Adding a field in each case -/

/-- A column that is there is not added. -/
theorem OwnerFound.addReferenceField_eq
    (found : entity.OwnerFound relationship) :
    entity.addReferenceField relationship = (entity, .ok false) := by
  by_cases manyToMany : relationship.isManyToMany
  · simp [addReferenceField, manyToMany]
  · obtain ⟨field, named, isReference⟩ := found (by simp [Relationship.isReference, manyToMany])
    simp [addReferenceField, manyToMany, named, isReference]

/-- A column that is missing is added at the end. -/
theorem Lacks.addReferenceField_eq
    (lacks : entity.Lacks relationship) :
    entity.addReferenceField relationship =
      (entity.withField relationship.referenceField, .ok true) := by
  have single : relationship.isManyToMany = false := by
    simpa [Relationship.isReference] using lacks.1
  simp [addReferenceField, single, lacks.2]

/-- A column that is taken is an error. -/
theorem Obstructs.addReferenceField_eq
    (obstructs : entity.Obstructs relationship) :
    entity.addReferenceField relationship =
      (entity, .error (entity.fieldTaken relationship)) := by
  obtain ⟨owns, field, named, plain⟩ := obstructs
  have single : relationship.isManyToMany = false := by
    simpa [Relationship.isReference] using owns
  simp [addReferenceField, single, named, plain]

/-! ## Fields at the end -/

@[simp]
theorem isReference_referenceField
    (relationship : Relationship) :
    relationship.referenceField.isReference = true :=
  rfl

@[simp]
theorem name_referenceField
    (relationship : Relationship) :
    relationship.referenceField.name = relationship.fieldName :=
  rfl

@[simp]
theorem columnName_referenceField
    (relationship : Relationship) :
    relationship.referenceField.columnName = Text.snakeCase relationship.fieldName :=
  rfl

/-- A field at the end is found by its name if no other is. -/
theorem fieldNamed?_append
    {added : List Field}
    (grown : extended.fields = entity.fields ++ added)
    (name : String) :
    extended.fieldNamed? name =
      (entity.fieldNamed? name).or (added.find? (·.name == name)) := by
  rw [fieldNamed?, grown, List.find?_append]
  rfl

/-- A field that is added is found only by a name that none before it has. -/
theorem fieldNamed?_withField
    (field : Field)
    (name : String) :
    (entity.withField field).fieldNamed? name =
      (entity.fieldNamed? name).or (if field.name = name then some field else none) := by
  have grown : (entity.withField field).fields = entity.fields ++ [field] := rfl
  rw [fieldNamed?_append grown]
  by_cases sameName : field.name = name <;> simp [sameName]

/-- What is found is found after any fields are added. -/
theorem OwnerFound.append
    (found : entity.OwnerFound relationship)
    {added : List Field}
    (grown : extended.fields = entity.fields ++ added) :
    extended.OwnerFound relationship := by
  intro owns
  obtain ⟨field, named, isReference⟩ := found owns
  refine ⟨field, ?_, isReference⟩
  rw [fieldNamed?_append grown, named, Option.some_or]

/-- A relationship finds the field that was added for it. -/
theorem Lacks.ownerFound
    (lacks : entity.Lacks relationship)
    (grown : extended.fields = entity.fields ++ [relationship.referenceField]) :
    extended.OwnerFound relationship := by
  intro _
  refine ⟨relationship.referenceField, ?_, rfl⟩
  rw [fieldNamed?_append grown, lacks.2, Option.none_or]
  simp

/-- A column is still missing after another one was added. -/
theorem lacks_withField_iff :
    (entity.withField field).Lacks relationship ↔
      entity.Lacks relationship ∧ field.name ≠ relationship.fieldName := by
  simp only [Lacks, fieldNamed?_withField, Option.or_eq_none_iff]
  by_cases sameName : field.name = relationship.fieldName <;> simp [sameName]

/-- Only fields that are there from the start stand in the way. -/
theorem obstructs_withField_iff
    (isReference : field.isReference = true) :
    (entity.withField field).Obstructs relationship ↔ entity.Obstructs relationship := by
  simp only [Obstructs, fieldNamed?_withField]
  cases entity.fieldNamed? relationship.fieldName with
  | none =>
      by_cases sameName : field.name = relationship.fieldName <;> simp [sameName, isReference]
  | some first =>
      simp

/-! ## Missing fields -/

/-- The fields that relationships lack, one for each name, in order of the relationships. -/
def missingFields (entity : Entity) (relationships : List Relationship) : List Field :=
  ((relationships.filter (entity.Lacks ·)).eraseDupsBy fun one another =>
    one.fieldName == another.fieldName).map (·.referenceField)

/-- A relationship whose column is not missing adds nothing to what is. -/
theorem missingFields_cons_of_not_lacks
    (notLacks : ¬ entity.Lacks relationship) :
    entity.missingFields (relationship :: relationships) = entity.missingFields relationships := by
  rw [missingFields, List.filter_cons_of_neg (by simpa using notLacks), missingFields]

/-- A field that is missing is missing no more once it is added. -/
theorem missingFields_cons_of_lacks
    (lacks : entity.Lacks relationship) :
    entity.missingFields (relationship :: relationships) =
      relationship.referenceField ::
        (entity.withField relationship.referenceField).missingFields relationships := by
  have laterLacks :
      (relationships.filter (entity.Lacks ·)).filter (fun other =>
          decide ((other.fieldName == relationship.fieldName) = false)) =
        relationships.filter ((entity.withField relationship.referenceField).Lacks ·) := by
    -- To leave out later relationships of the same name is to ask the larger entity.
    rw [List.filter_filter]
    refine List.filter_congr fun other _ => ?_
    rw [Bool.eq_iff_iff]
    simp only [lacks_withField_iff, name_referenceField, Bool.and_eq_true, decide_eq_true_eq,
      beq_eq_false_iff_ne]
    exact ⟨fun both => ⟨both.2, both.1.symm⟩, fun both => ⟨both.2.symm, both.1⟩⟩
  rw [missingFields, List.filter_cons_of_pos (by simpa using lacks), List.eraseDupsBy_cons,
    List.map_cons, laterLacks, missingFields]

/-- A missing field is the one that a relationship lacks. -/
theorem exists_lacks_of_mem_missingFields
    (member : field ∈ entity.missingFields relationships) :
    ∃ relationship ∈ relationships, entity.Lacks relationship ∧
      field = relationship.referenceField := by
  induction relationships generalizing entity with
  | nil =>
      cases member
  | cons first later inductionHypothesis =>
      by_cases lacks : entity.Lacks first
      · rw [missingFields_cons_of_lacks lacks, List.mem_cons] at member
        rcases member with isFirst | inLater
        · exact ⟨first, List.mem_cons_self, lacks, isFirst⟩
        · obtain ⟨other, declared, otherLacks, isOther⟩ := inductionHypothesis inLater
          exact
            ⟨other, List.mem_cons_of_mem first declared, (lacks_withField_iff.mp otherLacks).1,
              isOther⟩
      · rw [missingFields_cons_of_not_lacks lacks] at member
        obtain ⟨other, declared, found⟩ := inductionHypothesis member
        exact ⟨other, List.mem_cons_of_mem first declared, found⟩

/-- What a relationship lacks is among the missing fields, under its name. -/
theorem Lacks.exists_missingField
    (lacks : entity.Lacks relationship)
    (declared : relationship ∈ relationships) :
    ∃ field ∈ entity.missingFields relationships, field.name = relationship.fieldName := by
  induction relationships generalizing entity with
  | nil =>
      cases declared
  | cons first later inductionHypothesis =>
      by_cases firstLacks : entity.Lacks first
      · rw [missingFields_cons_of_lacks firstLacks]
        by_cases sameName : first.referenceField.name = relationship.fieldName
        · exact ⟨first.referenceField, List.mem_cons_self, sameName⟩
        · have inLater : relationship ∈ later := by
            rcases List.mem_cons.mp declared with rfl | inLater
            · exact (sameName rfl).elim
            · exact inLater
          obtain ⟨field, missing, named⟩ :=
            inductionHypothesis (lacks_withField_iff.mpr ⟨lacks, sameName⟩) inLater
          exact ⟨field, List.mem_cons_of_mem _ missing, named⟩
      · rw [missingFields_cons_of_not_lacks firstLacks]
        rcases List.mem_cons.mp declared with rfl | inLater
        · exact (firstLacks lacks).elim
        · exact inductionHypothesis lacks inLater

/-- No two missing fields have one name. -/
theorem missingFields_names_nodup
    (entity : Entity)
    (relationships : List Relationship) :
    ((entity.missingFields relationships).map (·.name)).Nodup := by
  induction relationships generalizing entity with
  | nil =>
      exact List.nodup_nil
  | cons first later inductionHypothesis =>
      by_cases lacks : entity.Lacks first
      · rw [missingFields_cons_of_lacks lacks, List.map_cons, List.nodup_cons]
        refine ⟨?_, inductionHypothesis _⟩
        intro repeated
        obtain ⟨field, missing, sameName⟩ := List.mem_map.mp repeated
        obtain ⟨other, _, otherLacks, rfl⟩ := exists_lacks_of_mem_missingFields missing
        exact (lacks_withField_iff.mp otherLacks).2 sameName.symm
      · rw [missingFields_cons_of_not_lacks lacks]
        exact inductionHypothesis entity

/-- Nothing is missing when every relationship finds its field. -/
theorem missingFields_eq_nil
    (found : ∀ relationship ∈ relationships, entity.OwnerFound relationship) :
    entity.missingFields relationships = [] := by
  refine List.eq_nil_iff_forall_not_mem.mpr fun field missing => ?_
  obtain ⟨relationship, declared, lacks, _⟩ := exists_lacks_of_mem_missingFields missing
  exact (found relationship declared).not_lacks lacks

/-- Fields are added for some relationships exactly when none of them is obstructed. -/
theorem addReferenceFields_eq_ok_iff :
    entity.addReferenceFields relationships = (extended, .ok ()) ↔
      (∀ relationship ∈ relationships, ¬ entity.Obstructs relationship) ∧
        extended = { entity with fields := entity.fields ++ entity.missingFields relationships } := by
  -- Each relationship is asked of what the ones before it left, so the entity is kept general.
  induction relationships generalizing entity with
  | nil =>
      simp [addReferenceFields, missingFields, eq_comm]
  | cons first later inductionHypothesis =>
      rcases entity.owner_cases first with found | lacks | obstructs
      · rw [addReferenceFields, found.addReferenceField_eq,
          missingFields_cons_of_not_lacks found.not_lacks, List.forall_mem_cons]
        simp only [inductionHypothesis, found.not_obstructs, not_false_eq_true, true_and]
      · rw [addReferenceFields, lacks.addReferenceField_eq, missingFields_cons_of_lacks lacks,
          List.forall_mem_cons]
        simp only [inductionHypothesis, lacks.not_obstructs, not_false_eq_true, true_and,
          obstructs_withField_iff (isReference_referenceField first)]
        simp only [withField, List.append_assoc, List.singleton_append]
      · rw [addReferenceFields, obstructs.addReferenceField_eq, List.forall_mem_cons]
        simp [obstructs]

end SchemaScript.Entity
