import SchemaScript.Proofs.Entity.Completion

namespace SchemaScript.Entity

/-!
# Columns of completed entities

Whether a relationship's field is missing is decided by the names of fields
alone, while the column of the field that is added gets a name in snake case.
The columns of a completed entity are therefore distinct only when no declared
column has such a name already, and no two missing fields are spelled
differently with one column in common.
-/

variable {entity completed : Entity} {relationships : List Relationship}

/-- The columns of the fields that the relationships lack are free, and each belongs to one name. -/
def ColumnsFree (entity : Entity) : Prop :=
  ∀ relationship ∈ entity.relationships, entity.Lacks relationship →
    (∀ field ∈ entity.fillNames.fields,
      field.columnName ≠ relationship.referenceField.columnName) ∧
      ∀ other ∈ entity.relationships, entity.Lacks other →
        other.referenceField.columnName = relationship.referenceField.columnName →
          other.fieldName = relationship.fieldName

instance :
    Decidable entity.ColumnsFree :=
  inferInstanceAs (Decidable (∀ relationship ∈ entity.relationships, _))

/-- Missing fields have the columns of those that the relationships lack. -/
theorem mem_missingColumns_iff
    {column : String} :
    column ∈ (entity.missingFields relationships).map (·.columnName) ↔
      ∃ relationship ∈ relationships, entity.Lacks relationship ∧
        relationship.referenceField.columnName = column := by
  rw [List.mem_map]
  constructor
  · rintro ⟨field, missing, rfl⟩
    obtain ⟨relationship, declared, lacks, rfl⟩ := exists_lacks_of_mem_missingFields missing
    exact ⟨relationship, declared, lacks, rfl⟩
  · rintro ⟨relationship, declared, lacks, rfl⟩
    obtain ⟨field, missing, sameName⟩ := lacks.exists_missingField declared
    obtain ⟨other, _, _, rfl⟩ := exists_lacks_of_mem_missingFields missing
    rw [name_referenceField] at sameName
    refine ⟨other.referenceField, missing, ?_⟩
    rw [columnName_referenceField, columnName_referenceField, sameName]

/-- Missing fields have distinct columns when differently named ones have. -/
theorem missingColumns_nodup_iff :
    ((entity.missingFields relationships).map (·.columnName)).Nodup ↔
      ∀ relationship ∈ relationships, entity.Lacks relationship →
        ∀ other ∈ relationships, entity.Lacks other →
          other.referenceField.columnName = relationship.referenceField.columnName →
            other.fieldName = relationship.fieldName := by
  have namesDistinct := entity.missingFields_names_nodup relationships
  rw [List.nodup_map_iff_inj_on namesDistinct.of_map]
  constructor
  · intro injective relationship declared lacks other otherDeclared otherLacks sameColumn
    obtain ⟨field, missing, named⟩ := lacks.exists_missingField declared
    obtain ⟨otherField, otherMissing, otherNamed⟩ := otherLacks.exists_missingField otherDeclared
    have sameField : otherField = field := by
      apply injective otherField otherMissing field missing
      obtain ⟨_, _, _, rfl⟩ := exists_lacks_of_mem_missingFields missing
      obtain ⟨_, _, _, rfl⟩ := exists_lacks_of_mem_missingFields otherMissing
      rw [name_referenceField] at named otherNamed
      simpa only [columnName_referenceField, named, otherNamed] using sameColumn
    rw [← named, ← otherNamed, sameField]
  · intro apart field missing otherField otherMissing sameColumn
    obtain ⟨relationship, declared, lacks, rfl⟩ := exists_lacks_of_mem_missingFields missing
    obtain ⟨other, otherDeclared, otherLacks, rfl⟩ :=
      exists_lacks_of_mem_missingFields otherMissing
    exact
      List.inj_on_of_nodup_map namesDistinct missing otherMissing
        (apart other otherDeclared otherLacks relationship declared lacks sameColumn)

/--
The columns of a normalized entity are distinct exactly when those that were
declared are, once they are filled in, and those of the missing fields are free.
-/
theorem columns_nodup_of_normalize_iff
    (succeeds : entity.normalize = (completed, .ok ())) :
    (completed.fields.map (·.columnName)).Nodup ↔
      (entity.fillNames.fields.map (·.columnName)).Nodup ∧ entity.ColumnsFree := by
  obtain ⟨_, rfl⟩ := normalize_eq_ok_iff.mp succeeds
  have columns :
      entity.complete.fields.map (·.columnName) =
        entity.fillNames.fields.map (·.columnName) ++
          (entity.missingFields entity.relationships).map (·.columnName) :=
    List.map_append
  rw [columns, List.nodup_append, missingColumns_nodup_iff]
  refine and_congr_right fun _ => ?_
  constructor
  · rintro ⟨apart, disjoint⟩ relationship declared lacks
    refine ⟨fun field member => ?_, apart relationship declared lacks⟩
    exact
      disjoint _ (List.mem_map_of_mem member) _
        (mem_missingColumns_iff.mpr ⟨relationship, declared, lacks, rfl⟩)
  · intro columnsFree
    refine ⟨fun relationship declared lacks => (columnsFree relationship declared lacks).2, ?_⟩
    intro column declaredColumn missingColumn missing
    obtain ⟨field, member, rfl⟩ := List.mem_map.mp declaredColumn
    obtain ⟨relationship, declared, lacks, rfl⟩ := mem_missingColumns_iff.mp missing
    exact (columnsFree relationship declared lacks).1 field member

/-- A game is completed with columns of distinct names. -/
theorem columns_nodup_of_normalize_draftGame :
    draftGame.normalize = (draftGame.complete, .ok ()) ∧
      (draftGame.fillNames.fields.map (·.columnName)).Nodup ∧ draftGame.ColumnsFree ∧
      (draftGame.complete.fields.map (·.columnName)).Nodup := by
  have succeeds : draftGame.normalize = (draftGame.complete, .ok ()) := by rfl
  have declared : (draftGame.fillNames.fields.map (·.columnName)).Nodup := by decide +kernel
  have columnsFree : draftGame.ColumnsFree := by decide +kernel
  exact
    ⟨succeeds, declared, columnsFree,
      (columns_nodup_of_normalize_iff succeeds).mpr ⟨declared, columnsFree⟩⟩

/-- A task whose field for its owner is spelled another way than the relationship's. -/
def spelledTask : Entity :=
  { (Entity.named "Task").withField (.named "ownerId" (.reference "Person" "")) with
    relationships := [.linking "owner" "Person" .manyToOne] }

/-- A task with two relationships that spell one column in two ways. -/
def sharedTask : Entity :=
  { Entity.named "Task" with
    relationships := [
      { Relationship.linking "owner" "Person" .manyToOne with fromField := "ownerId" },
      { Relationship.linking "creator" "Person" .manyToOne with fromField := "owner_id" }] }

/-- A column that is declared, or wanted, under another spelling is added a second time. -/
theorem spelledTask_columns_repeated :
    (spelledTask.fields.map (·.name)).Nodup ∧
      (spelledTask.fillNames.fields.map (·.columnName)).Nodup ∧
      spelledTask.normalize = (spelledTask.complete, .ok ()) ∧
      ¬ (spelledTask.complete.fields.map (·.columnName)).Nodup ∧
      spelledTask.complete.validate =
        .error (.invalidField "Task" "owner_id" "Duplicate column name 'owner_id'") ∧
      (sharedTask.fields.map (·.name)).Nodup ∧
      (sharedTask.fillNames.fields.map (·.columnName)).Nodup ∧
      sharedTask.normalize = (sharedTask.complete, .ok ()) ∧
      ¬ (sharedTask.complete.fields.map (·.columnName)).Nodup := by
  exact
    ⟨by decide +kernel, by decide +kernel, by rfl, by decide +kernel, by decide +kernel,
      by decide +kernel, by decide +kernel, by rfl, by decide +kernel⟩

end SchemaScript.Entity
