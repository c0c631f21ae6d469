import SchemaScript.Model
import SchemaScript.Proofs.Entity.ReferenceField

namespace SchemaScript

/-!
# Completed entities

What `normalize` gives when it succeeds can be said without running it: names
that were left out are filled in, and after the declared fields stand those that
the relationships lack, one for each name.  It succeeds when no relationship is
obstructed.  A completed entity has nothing left to fill in, so that it stays as
it is, and so does a model of completed entities.
-/

namespace Entity

variable {entity completed : Entity} {relationship : Relationship} {field : Field}

/-! ## Filled names -/

@[simp]
theorem name_fillColumnName
    (field : Field) :
    (fillColumnName field).name = field.name := by
  rw [fillColumnName]
  split <;> rfl

@[simp]
theorem isReference_fillColumnName
    (field : Field) :
    (fillColumnName field).isReference = field.isReference := by
  rw [fillColumnName]
  split <;> rfl

/-- A column name that is derived is filled in already, even when it comes out empty. -/
theorem fillColumnName_of_derived
    (derived : field.columnName = Text.snakeCase field.name) :
    fillColumnName field = field := by
  rw [fillColumnName, ← derived]
  split <;> rfl

/-- A column name that was filled in is not filled in again. -/
theorem fillColumnName_idem
    (field : Field) :
    fillColumnName (fillColumnName field) = fillColumnName field := by
  by_cases leftOut : field.columnName.isEmpty
  · exact fillColumnName_of_derived (by simp [fillColumnName, leftOut])
  · simp [fillColumnName, leftOut]

/-- Filling in the name of a column changes nothing else of the field. -/
theorem fillColumnName_eq
    (field : Field) :
    fillColumnName field =
      { field with
        columnName :=
          if field.columnName = "" then Text.snakeCase field.name else field.columnName } := by
  by_cases leftOut : field.columnName = "" <;> simp [fillColumnName, leftOut]

/-- Fields are found by the same names before and after names are filled in. -/
theorem fieldNamed?_fillNames
    (name : String) :
    entity.fillNames.fieldNamed? name = (entity.fieldNamed? name).map fillColumnName := by
  have sameNames :
      (fun field : Field => field.name == name) ∘ fillColumnName = fun field => field.name == name :=
    funext fun field => congrArg (· == name) (name_fillColumnName field)
  rw [fieldNamed?, fieldNamed?, fillNames, List.find?_map, sameNames]

/-- Filling in names adds no columns. -/
theorem lacks_fillNames_iff :
    entity.fillNames.Lacks relationship ↔ entity.Lacks relationship := by
  simp [Lacks, fieldNamed?_fillNames]

/-- Filling in names takes no columns. -/
theorem obstructs_fillNames_iff :
    entity.fillNames.Obstructs relationship ↔ entity.Obstructs relationship := by
  simp [Obstructs, fieldNamed?_fillNames]

/-- The same fields are missing before and after names are filled in. -/
theorem missingFields_fillNames
    (relationships : List Relationship) :
    entity.fillNames.missingFields relationships = entity.missingFields relationships := by
  simp only [missingFields, lacks_fillNames_iff]

/-! ## The completed entity -/

/-- The entity with all names filled in and the fields that its relationships lack at the end. -/
def complete (entity : Entity) : Entity :=
  { entity.fillNames with
    fields := entity.fillNames.fields ++ entity.missingFields entity.relationships }

/-- An entity is completed exactly when none of its relationships is obstructed. -/
theorem normalize_eq_ok_iff :
    entity.normalize = (completed, .ok ()) ↔
      (∀ relationship ∈ entity.relationships, ¬ entity.Obstructs relationship) ∧
        completed = entity.complete := by
  simp only [normalize, addReferenceFields_eq_ok_iff, obstructs_fillNames_iff,
    missingFields_fillNames, complete]

/-- An entity stays as it is when it has all names and its relationships find their fields. -/
theorem normalize_eq_self_iff :
    entity.normalize = (entity, .ok ()) ↔ entity.fillNames = entity ∧ entity.OwnersFound := by
  rw [normalize_eq_ok_iff]
  constructor
  · rintro ⟨unobstructed, same⟩
    -- The completed entity has as many fields as before, so none was missing.
    have nothingMissing : entity.missingFields entity.relationships = [] := by
      have lengths := congrArg (fun each : Entity => each.fields.length) same
      simpa [complete, fillNames] using lengths
    constructor
    · rw [complete, nothingMissing, List.append_nil] at same
      exact same.symm
    · intro relationship declared
      rcases entity.owner_cases relationship with found | lacks | obstructs
      · exact found
      · obtain ⟨field, missing, _⟩ := lacks.exists_missingField declared
        rw [nothingMissing] at missing
        cases missing
      · exact (unobstructed relationship declared obstructs).elim
  · rintro ⟨filled, found⟩
    constructor
    · exact fun relationship declared => (found relationship declared).not_obstructs
    · rw [complete, missingFields_eq_nil found, List.append_nil, filled]

/-- A complete entity has all its names. -/
theorem fillNames_complete :
    entity.complete.fillNames = entity.complete := by
  have missingFilled :
      (entity.missingFields entity.relationships).map fillColumnName =
        entity.missingFields entity.relationships := by
    rw [List.map_congr_left (g := id), List.map_id]
    intro field missing
    obtain ⟨relationship, _, _, rfl⟩ := exists_lacks_of_mem_missingFields missing
    exact fillColumnName_of_derived rfl
  have fieldsFilled :
      entity.complete.fields.map fillColumnName = entity.complete.fields := by
    simp only [complete, fillNames, List.map_append, List.map_map, missingFilled]
    congr 1
    exact List.map_congr_left fun field _ => fillColumnName_idem field
  have tableFilled :
      (if entity.complete.tableName.isEmpty then Text.snakeCase entity.complete.name
        else entity.complete.tableName) = entity.complete.tableName := by
    simp only [complete, fillNames]
    by_cases leftOut : entity.tableName.isEmpty <;> simp [leftOut]
  have namespaceFilled :
      entity.complete.namespaceName?.filter (fun name => !name.isEmpty) =
        entity.complete.namespaceName? := by
    simp [complete, fillNames, Option.filter_filter]
  rw [fillNames, fieldsFilled, tableFilled, namespaceFilled]

/-- In a complete entity all relationships have their fields unless one was in the way. -/
theorem ownersFound_complete
    (unobstructed : ∀ relationship ∈ entity.relationships, ¬ entity.Obstructs relationship) :
    entity.complete.OwnersFound := by
  intro relationship declared owns
  have grown :
      entity.complete.fields =
        entity.fillNames.fields ++ entity.missingFields entity.relationships :=
    rfl
  rw [fieldNamed?_append grown, fieldNamed?_fillNames]
  rcases entity.owner_cases relationship with found | lacks | obstructs
  · obtain ⟨field, named, isReference⟩ := found owns
    exact ⟨fillColumnName field, by simp [named], by simpa using isReference⟩
  · obtain ⟨missing, member, sameName⟩ := lacks.exists_missingField declared
    obtain ⟨field, first⟩ :
        ∃ field, (entity.missingFields entity.relationships).find?
          (·.name == relationship.fieldName) = some field := by
      rw [← Option.isSome_iff_exists, List.find?_isSome]
      exact ⟨missing, member, by simpa using sameName⟩
    obtain ⟨other, _, _, rfl⟩ :=
      exists_lacks_of_mem_missingFields (List.mem_of_find?_eq_some first)
    exact ⟨other.referenceField, by simp [lacks.2, first], rfl⟩
  · exact (unobstructed relationship declared obstructs).elim

/-- A completed entity has nothing left to fill in. -/
theorem normalize_of_normalize
    (succeeds : entity.normalize = (completed, .ok ())) :
    completed.normalize = (completed, .ok ()) := by
  obtain ⟨unobstructed, rfl⟩ := normalize_eq_ok_iff.mp succeeds
  exact normalize_eq_self_iff.mpr ⟨fillNames_complete, ownersFound_complete unobstructed⟩

/-- One entity is another with names that were left out and reference fields at the end. -/
structure Completes (completed entity : Entity) : Prop where
  name : completed.name = entity.name
  tableName :
    completed.tableName =
      if entity.tableName = "" then Text.snakeCase entity.name else entity.tableName
  namespaceName :
    completed.namespaceName? =
      if entity.namespaceName? = some "" then none else entity.namespaceName?
  description : completed.description = entity.description
  fields :
    ∃ added,
      completed.fields =
        entity.fields.map (fun field =>
          { field with
            columnName :=
              if field.columnName = "" then Text.snakeCase field.name else field.columnName }) ++
          added ∧
        ∀ field ∈ added, ∃ relationship ∈ entity.relationships, entity.Lacks relationship ∧
          field = relationship.referenceField
  relationships : completed.relationships = entity.relationships
  uniqueTogether : completed.uniqueTogether = entity.uniqueTogether
  indexes : completed.indexes = entity.indexes

/-- What is filled in is all that changes. -/
theorem complete_completes :
    Completes entity.complete entity where
  name := rfl
  tableName := by
    by_cases leftOut : entity.tableName = "" <;> simp [complete, fillNames, leftOut]
  namespaceName := by
    cases given : entity.namespaceName? with
    | none => simp [complete, fillNames, given]
    | some name =>
        by_cases isEmpty : name = "" <;>
          simp [complete, fillNames, given, isEmpty, Option.filter]
  description := rfl
  fields :=
    ⟨entity.missingFields entity.relationships,
      by simp only [complete, fillNames, funext fillColumnName_eq],
      fun _ missing => exists_lacks_of_mem_missingFields missing⟩
  relationships := rfl
  uniqueTogether := rfl
  indexes := rfl

end Entity

/-! ## Completed models -/

namespace Model

variable {model completed : Model}

/-- Entities are normalized together exactly when each of them is. -/
theorem normalizeEntities_eq_ok_iff
    {entities completed : List Entity} :
    normalizeEntities entities = (completed, .ok ()) ↔
      List.Forall₂ (fun entity completed => entity.normalize = (completed, .ok ()))
        entities completed := by
  induction entities generalizing completed with
  | nil =>
      simp [normalizeEntities, eq_comm]
  | cons first later inductionHypothesis =>
      rw [normalizeEntities, List.forall₂_cons_left_iff]
      rcases first.normalize with ⟨normalized, error | _⟩
      · simp
      · constructor
        · intro succeeds
          obtain ⟨rfl, laterSucceeds⟩ := Prod.mk.inj succeeds
          exact
            ⟨normalized, _, rfl, inductionHypothesis.mp (Prod.ext rfl laterSucceeds), rfl⟩
        · rintro ⟨_, others, same, laterNormalized, rfl⟩
          obtain ⟨rfl, _⟩ := Prod.mk.inj same
          simp only [inductionHypothesis.mpr laterNormalized]

/-- A model is completed entity by entity. -/
theorem normalize_eq_ok_iff :
    model.normalize = (completed, .ok ()) ↔
      completed.info = model.info ∧
        List.Forall₂ (fun entity completed => entity.normalize = (completed, .ok ()))
          model.entities completed.entities := by
  rw [← normalizeEntities_eq_ok_iff, normalize]
  rcases normalizeEntities model.entities with ⟨entities, outcome⟩
  cases completed
  simp [eq_comm, and_assoc]

/-- A completed model has nothing left to fill in. -/
theorem normalize_of_normalize
    (succeeds : model.normalize = (completed, .ok ())) :
    completed.normalize = (completed, .ok ()) := by
  rw [normalize_eq_ok_iff] at succeeds ⊢
  refine ⟨rfl, List.forall₂_same.mpr fun entity member => ?_⟩
  obtain ⟨given, _, normalized⟩ := exists_left_of_forall₂ succeeds.2 member
  exact Entity.normalize_of_normalize normalized

end Model

/--
An entity that is normalized stays as it is when it is normalized again, its
single-valued relationships find their references, and it differs from what it
was in the names that were left out and in reference fields at the end.  A model
that is normalized stays as it is as well.
-/
theorem normalize_completes :
    (∀ entity completed : Entity, entity.normalize = (completed, .ok ()) →
      completed.normalize = (completed, .ok ()) ∧ completed.OwnersFound ∧
        completed.Completes entity) ∧
      ∀ model completed : Model, model.normalize = (completed, .ok ()) →
        completed.normalize = (completed, .ok ()) := by
  constructor
  · intro entity completed succeeds
    obtain ⟨unobstructed, rfl⟩ := Entity.normalize_eq_ok_iff.mp succeeds
    exact
      ⟨Entity.normalize_of_normalize succeeds, Entity.ownersFound_complete unobstructed,
        Entity.complete_completes⟩
  · intro model completed succeeds
    exact Model.normalize_of_normalize succeeds

/--
A game whose names are left out.  Two relationships share a field that is
missing, one finds its field, and one wants a field whose column name comes out
empty.
-/
def draftGame : Entity where
  name := "LeagueGame"
  tableName := ""
  namespaceName? := some ""
  description := some "One game of the season"
  fields := [
    { Field.generatedKey with columnName := "" },
    { Field.named "kickOff" .dateTime with columnName := "" },
    { Field.named "arenaId" (.reference "Arena" "") with columnName := "venue" }]
  relationships := [
    .linking "home" "Team" .manyToOne,
    .linking "officials" "Person" (.manyToMany ""),
    { Relationship.linking "away" "Team" .oneToOne with fromField := "home_id" },
    { Relationship.linking "arena" "Arena" .manyToOne with fromField := "arenaId" },
    { Relationship.linking "sequel" "LeagueGame" .manyToOne with fromField := "__" }]
  uniqueTogether := []
  indexes := []

/-- A model with the game. -/
def draftModel : Model where
  info := .named "Drafts"
  entities := [draftGame, Entity.named "Team"]

/--
A game gets the names and the column that its author left out, and nothing
more the second time.
-/
theorem normalize_completes_draftModel :
    draftGame.normalize = (draftGame.complete, .ok ()) ∧
      draftGame.complete.fields.map (fun field => (field.name, field.columnName)) =
        [("id", "id"), ("kickOff", "kick_off"), ("arenaId", "venue"), ("home_id", "home_id"),
          ("__", "")] ∧
      draftGame.complete.normalize = (draftGame.complete, .ok ()) ∧
      draftGame.complete.OwnersFound ∧
      draftGame.complete.Completes draftGame ∧
      draftModel.normalize.1.normalize = (draftModel.normalize.1, .ok ()) := by
  obtain ⟨ofEntity, ofModel⟩ := normalize_completes
  have succeeds : draftGame.normalize = (draftGame.complete, .ok ()) := by rfl
  have modelSucceeds : draftModel.normalize = (draftModel.normalize.1, .ok ()) := by rfl
  obtain ⟨again, found, completes⟩ := ofEntity draftGame draftGame.complete succeeds
  exact ⟨succeeds, by decide +kernel, again, found, completes, ofModel draftModel _ modelSucceeds⟩

end SchemaScript
