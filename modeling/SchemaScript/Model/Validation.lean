import SchemaScript.Model

namespace SchemaScript.Model

/-!
# Valid models

The rules that a model has to keep for a script to be written, checked one
after another up to the first that it breaks: those of its parts, then that
names and tables are distinct, then that references and relationships lead to
entities and join tables do not meet.
-/

/-- Names and tables of entities are distinct; `names` and `tables` are those seen before. -/
def checkDistinctEntities (names : List String) (tables : List TableId) :
    List Entity → Except SchemaError Unit
  | [] => .ok ()
  | entity :: entities =>
      if names.contains entity.name then
        .error (.invalidEntity entity.name "Duplicate entity name")
      else if tables.contains entity.tableId then
        .error (.duplicateTable entity.tableId.display)
      else
        checkDistinctEntities (entity.name :: names) (entity.tableId :: tables) entities

/-- A field that refers to an entity refers to one of the model. -/
def checkReference (model : Model) (field : Field) : Except SchemaError Unit :=
  match field.dataType with
  | .reference entity _ =>
      match model.requireEntity entity with
      | .ok _ => .ok ()
      | .error error => .error error
  | _ => .ok ()

/-- The identity of the join table of an entity's many-to-many relationship. -/
def joinTableId (owner : Entity) (relationship : Relationship) : TableId :=
  TableId.within owner.namespaceName? (relationship.junctionFor owner.tableName)

/-- Join tables and the names of the entities that declare them. -/
abbrev JoinOwners := List (TableId × String)

/-- The entity that declares a join table. -/
def ownerOf? (owners : JoinOwners) (table : TableId) : Option String :=
  (owners.find? fun entry => entry.1 == table).map Prod.snd

/-- The join table of a relationship has two columns and is declared once. -/
def checkJoinTable (owner : Entity) (owners : JoinOwners) (relationship : Relationship) :
    Except SchemaError JoinOwners :=
  let join := joinTableId owner relationship
  if relationship.backwardKeyFor owner.tableName = relationship.forwardKeyName then
    .error
      (.invalidRelationship
        ("Join table '" ++ join.display ++ "' uses the same column for both sides"))
  else
    match ownerOf? owners join with
    | some earlier =>
        .error
          (.duplicateJoinTable
            (join.display ++ " (declared by " ++ earlier ++ " and " ++ owner.name ++ ")"))
    | none => .ok ((join, owner.name) :: owners)

/-- A relationship leads to a field of an entity; `owners` are the join tables seen before. -/
def checkLink (model : Model) (owner : Entity) (owners : JoinOwners)
    (relationship : Relationship) : Except SchemaError JoinOwners := do
  let target ← model.requireEntity relationship.toEntity
  let _ ← target.referencedField relationship.targetField?
  if relationship.isManyToMany then
    checkJoinTable owner owners relationship
  else
    .ok owners

/-- The relationships of an entity lead to entities. -/
def checkLinks (model : Model) (owner : Entity) (owners : JoinOwners) :
    List Relationship → Except SchemaError JoinOwners
  | [] => .ok owners
  | relationship :: later =>
      match model.checkLink owner owners relationship with
      | .ok seen => model.checkLinks owner seen later
      | .error error => .error error

/-- The references and relationships of some entities lead to entities. -/
def checkConnections (model : Model) (owners : JoinOwners) :
    List Entity → Except SchemaError Unit
  | [] => .ok ()
  | entity :: entities =>
      match checkAll model.checkReference entity.fields with
      | .ok () =>
          match model.checkLinks entity owners entity.relationships with
          | .ok seen => model.checkConnections seen entities
          | .error error => .error error
      | .error error => .error error

/-- Checks the rules that a model has to keep. -/
def validate (model : Model) : Except SchemaError Unit := do
  model.info.validate
  checkAll Entity.validate model.entities
  checkDistinctEntities [] [] model.entities
  model.checkConnections [] model.entities

end SchemaScript.Model
