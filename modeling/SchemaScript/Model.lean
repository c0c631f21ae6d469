import SchemaScript.Entity.Validation

namespace SchemaScript

/-!
# Models

A model is what a script is generated from: some entities in the order of
their declaration, and a name, a version and a description.
-/

/-- What a model says about itself. -/
structure ModelMeta where
  name : String
  description : Option String
  version : String
  deriving DecidableEq, Repr

namespace ModelMeta

/-- The version of a model that does not give one. -/
def firstVersion : String := "0.1.0"

/-- A name alone. -/
def named (name : String) : ModelMeta where
  name := name
  description := none
  version := firstVersion

/-- Checks a model's name: it is given and takes no more than a hundred bytes. -/
def validate (info : ModelMeta) : Except SchemaError Unit := do
  require (!info.name.isEmpty) (.invalid "Model name cannot be empty")
  require (info.name.utf8ByteSize ≤ 100)
    (.invalid "Model name too long (max 100 characters)")

end ModelMeta

/-- A data model. -/
structure Model where
  info : ModelMeta
  entities : List Entity
  deriving BEq, Repr

namespace Model

/-- A model without entities. -/
def named (name : String) : Model where
  info := ModelMeta.named name
  entities := []

/-- A model to start from. -/
def placeholder : Model :=
  named "Untitled Model"

/-- The first entity of a name. -/
def entity? (model : Model) (name : String) : Option Entity :=
  model.entities.find? (·.name == name)

/-- The entity that a name has to find. -/
def requireEntity (model : Model) (name : String) : Except SchemaError Entity :=
  match model.entity? name with
  | some entity => .ok entity
  | none => .error (.entityNotFound name)

/-- The first entity of a table. -/
def entityOfTable? (model : Model) (table : TableId) : Option Entity :=
  model.entities.find? (·.tableId == table)

/-- Puts an entity in the place of the first one of a name. -/
def replaceFirst (name : String) (entity : Entity) : List Entity → List Entity
  | [] => []
  | first :: rest =>
      if first.name = name then
        entity :: rest
      else
        first :: replaceFirst name entity rest

/-- Replaces the first entity of a name. -/
def replaceEntity (model : Model) (name : String) (entity : Entity) : Model :=
  { model with entities := replaceFirst name entity model.entities }

/-- How many relationships the entities own together. -/
def relationshipCount (model : Model) : Nat :=
  (model.entities.flatMap (·.relationships)).length

/-- The namespaces of the entities, each once, in order of first appearance. -/
def namespaces (model : Model) : List String :=
  (model.entities.filterMap (·.namespaceName?)).eraseDups

/-- Normalizes some entities, up to the first that fails. -/
def normalizeEntities : List Entity → List Entity × Except SchemaError Unit
  | [] => ([], .ok ())
  | entity :: later =>
      match entity.normalize with
      | (normalized, .ok ()) =>
          let rest := normalizeEntities later
          (normalized :: rest.1, rest.2)
      | (partly, .error error) => (partly :: later, .error error)

/--
Fills in what the author may leave out.  When an entity fails, those before it
and what was filled in of it stay.
-/
def normalize (model : Model) : Model × Except SchemaError Unit :=
  let (entities, outcome) := normalizeEntities model.entities
  ({ model with entities }, outcome)

end Model

end SchemaScript
