import SchemaScript.Proofs.Entity.WellFormed

/-!
# What names find

A name finds the field that has it as its own name before a field whose column
has it, and a relationship is asked for only when neither is there.  The checks
of an entity keep the names of its fields apart, and those of its columns, but
they do not compare the two.  One name can therefore belong to a field and to
the column of another one, and then it finds the field.  Nor are the names of
relationships compared with these or with each other.
-/

namespace SchemaScript

/-- A search finds the only item that passes. -/
theorem find?_eq_some_of_unique
    {α : Type}
    {passes : α → Bool}
    {items : List α}
    {item : α}
    (member : item ∈ items)
    (itemPasses : passes item = true)
    (unique : ∀ other ∈ items, passes other = true → other = item) :
    items.find? passes = some item := by
  have someFound : (items.find? passes).isSome = true :=
    List.find?_isSome.mpr ⟨item, member, itemPasses⟩
  obtain ⟨other, found⟩ := Option.isSome_iff_exists.mp someFound
  rw [found, unique other (List.mem_of_find?_eq_some found) (List.find?_some found)]

/-- A field answers to its name and to that of its column. -/
theorem Field.answersTo_eq_true_iff
    {field : Field}
    {name : String} :
    field.answersTo name = true ↔ field.name = name ∨ field.columnName = name := by
  simp [answersTo]

namespace Entity

variable {entity : Entity} {field : Field} {name : String}

/-! ## Searching -/

/-- A field of a well-formed entity is the only one of its name. -/
theorem WellFormed.fieldNamed?_eq_some_iff
    (wellFormed : entity.WellFormed) :
    entity.fieldNamed? name = some field ↔ field ∈ entity.fields ∧ field.name = name := by
  constructor
  · intro found
    have named := List.find?_some found
    exact ⟨List.mem_of_find?_eq_some found, by simpa using named⟩
  · rintro ⟨member, rfl⟩
    apply find?_eq_some_of_unique member (by simp)
    intro other otherMember sameName
    exact wellFormed.eq_of_name_eq otherMember member (by simpa using sameName)

/-- A name finds a field of this name, a column of this name, or what a relationship owns. -/
theorem findField?_cases
    (found : entity.findField? name = some field) :
    (field ∈ entity.fields ∧ field.name = name) ∨
      (field ∈ entity.fields ∧ field.columnName = name ∧
        ∀ other ∈ entity.fields, other.name ≠ name) ∨
      (entity.relationshipField? name = some field ∧
        ∀ other ∈ entity.fields, other.answersTo name = false) := by
  simp only [findField?, fieldNamed?, Option.or_eq_some_iff, List.find?_eq_none, beq_iff_eq]
    at found
  rcases found with byName | ⟨noName, byColumn | ⟨noColumn, byRelationship⟩⟩
  · have named := List.find?_some byName
    exact .inl ⟨List.mem_of_find?_eq_some byName, by simpa using named⟩
  · have named := List.find?_some byColumn
    exact .inr (.inl ⟨List.mem_of_find?_eq_some byColumn, by simpa using named, noName⟩)
  · refine .inr (.inr ⟨byRelationship, ?_⟩)
    intro other member
    rw [Bool.eq_false_iff, ne_eq, Field.answersTo_eq_true_iff, not_or]
    exact ⟨noName other member, noColumn other member⟩

/-- A single-valued relationship of the name owns the field. -/
def OwnedUnder (entity : Entity) (name : String) (field : Field) : Prop :=
  ∃ relationship ∈ entity.relationships,
    relationship.isReference = true ∧ relationship.name = name ∧
      field.answersTo relationship.fieldName = true

/-- The name of a relationship finds a field that a relationship of this name owns. -/
theorem ownedUnder_of_relationshipField?
    (found : entity.relationshipField? name = some field) :
    field ∈ entity.fields ∧ entity.OwnedUnder name field := by
  rw [relationshipField?] at found
  split at found
  next relationship relationshipFound =>
    have member := List.mem_of_find?_eq_some relationshipFound
    have named := List.find?_some relationshipFound
    have owned := List.find?_some found
    rw [Bool.and_eq_true, beq_iff_eq] at named
    exact
      ⟨List.mem_of_find?_eq_some found, relationship, member, named.1, named.2, owned⟩
  next =>
    cases found

/-- A field that a name finds is one of the entity. -/
theorem mem_of_findField?
    (found : entity.findField? name = some field) :
    field ∈ entity.fields := by
  rcases findField?_cases found with ⟨member, _⟩ | ⟨member, _⟩ | ⟨byRelationship, _⟩
  · exact member
  · exact member
  · exact (ownedUnder_of_relationshipField? byRelationship).1

/-- Columns are those of the fields that names find, one by one. -/
def Resolves (entity : Entity) (names columns : List String) : Prop :=
  List.Forall₂
    (fun name column => ∃ field, entity.findField? name = some field ∧ column = field.columnName)
    names columns

/-- Names find the same columns whenever they are asked for. -/
theorem Resolves.eq
    {names columns others : List String}
    (resolves : entity.Resolves names columns)
    (otherResolves : entity.Resolves names others) :
    columns = others := by
  have same : List.Forall₂ (· = ·) columns others := by
    apply forall₂_of_common resolves otherResolves
    rintro name _ _ _ ⟨field, found, rfl⟩ ⟨_, otherFound, rfl⟩
    rw [found, Option.some.injEq] at otherFound
    rw [otherFound]
  rwa [List.forall₂_eq_eq_eq] at same

/-! ## Fields that answer to one name -/

section WellFormed

variable (wellFormed : entity.WellFormed)

include wellFormed

end WellFormed

/-- The name of two relationships finds what the first one owns. -/
example :
    let owner (column : String) : Relationship :=
      { Relationship.linking "owner" "Person" .manyToOne with fromField := column }
    let share :=
      ((Entity.named "Share").withRelationship (owner "holder_id")).withRelationship
        (owner "keeper_id")
    share.validate = .ok () ∧
      (share.findField? "owner").map Field.name = some "holder_id" := by
  decide +kernel

end Entity

end SchemaScript
