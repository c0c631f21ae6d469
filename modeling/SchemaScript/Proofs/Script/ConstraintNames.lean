import SchemaScript.Proofs.Script.Statements
import SchemaScript.Proofs.Sql.Name
import SchemaScript.Proofs.TableUnit.ForeignKeys
import SchemaScript.Proofs.TableUnit.Junction

/-!
# The names of constraints

Below its columns, a table has a constraint for each unique group of its
entity and, where the database has it so, for each foreign key.  Their names
are derived from what they are about, and differ as this does, as long as
digests do and no semicolon is in the way.  A unique group is written as often
as it is declared, under whatever names of its columns, so that a constraint
can stand twice in a table.
-/

namespace SchemaScript

open Sql TableUnit

namespace Sql

/-! ## Constraints of tables -/

/-- A constraint on a line of its own. -/
inductive Constraint where
  | unique (constraint : UniqueConstraint)
  | foreignKey (key : ForeignKey)
  deriving DecidableEq

namespace Constraint

/-- The name of a constraint. -/
def name : Constraint → String
  | .unique constraint => constraint.name
  | .foreignKey key => key.constraintName

/-- What a constraint demands, after its name. -/
def clause (database : Database) : Constraint → String
  | .unique constraint => " UNIQUE (" ++ database.quoteList constraint.columns ++ ")"
  | .foreignKey key =>
      " FOREIGN KEY (" ++ database.quote key.column ++ ") " ++ key.references database

/-- The line of a constraint. -/
def line (database : Database) (constraint : Constraint) : String :=
  "CONSTRAINT " ++ database.quote constraint.name ++ constraint.clause database

/-- What the name of a constraint on a table is derived from. -/
def subject (table : String) : Constraint → List String
  | .unique constraint => table :: constraint.columns
  | .foreignKey key => [key.fromTable, key.column, key.target.table, key.targetColumn]

/-- The digits in which the name of a constraint ends. -/
def digits (table : String) (constraint : Constraint) : String :=
  match constraint with
  | .unique _ => shortDigest 6 (constraint.subject table)
  | .foreignKey _ => shortDigest 8 (constraint.subject table)

/-- The digits in two names differ if the texts under them do. -/
def DigestsApart (table : String) (constraint other : Constraint) : Prop :=
  constraint.digits table = other.digits table →
    digestInput (constraint.subject table) = digestInput (other.subject table)

/-- No semicolon stands in what the name of a constraint is derived from. -/
def PlainSubject (table : String) (constraint : Constraint) : Prop :=
  ∀ name ∈ constraint.subject table, ';' ∉ name.toList

instance {table : String} {constraint other : Constraint} :
    Decidable (DigestsApart table constraint other) :=
  inferInstanceAs (Decidable (constraint.digits table = other.digits table →
    digestInput (constraint.subject table) = digestInput (other.subject table)))

instance {table : String} {constraint : Constraint} : Decidable (constraint.PlainSubject table) :=
  inferInstanceAs (Decidable (∀ name ∈ constraint.subject table, ';' ∉ name.toList))

/-- A constraint is about what a text under its digest tells. -/
theorem DigestsApart.subject_eq
    {table : String}
    {constraint other : Constraint}
    (apart : DigestsApart table constraint other)
    (plain : constraint.PlainSubject table)
    (otherPlain : other.PlainSubject table)
    (sameDigits : constraint.digits table = other.digits table) :
    constraint.subject table = other.subject table := by
  have filled
      (constraint : Constraint) :
      constraint.subject table ≠ [] := by
    cases constraint <;> exact List.cons_ne_nil _ _
  exact digestInput_inj (filled constraint) (filled other) plain otherPlain (apart sameDigits)

end Constraint

namespace TableDefinition

variable {table : TableDefinition} {database : Database}

/-- The constraints that stand below the columns of a table. -/
def constraints (table : TableDefinition) (database : Database) : List Constraint :=
  table.uniques.map .unique ++
    if database.inlineReferences then [] else table.foreignKeys.map .foreignKey

/-- A unique constraint is written as its own line. -/
theorem line_unique
    {constraint : UniqueConstraint} :
    Constraint.line database (.unique constraint) = constraint.line database := by
  unfold Constraint.line Constraint.clause Constraint.name UniqueConstraint.line
  simp only [String.append_assoc]

/-- A foreign key that stands apart from its column is written as its own line. -/
theorem constraint?_eq_line
    {key : ForeignKey}
    (separate : database.inlineReferences = false) :
    key.constraint? database = some (Constraint.line database (.foreignKey key)) := by
  unfold ForeignKey.constraint? Constraint.line Constraint.clause Constraint.name
  simp only [separate, Bool.false_eq_true, if_false, String.append_assoc]

/-- A table consists of the lines of its columns and of its constraints. -/
theorem lines_eq_constraints :
    table.lines database =
      table.columns.map (·.line database) ++
        (table.constraints database).map (·.line database) := by
  have uniqueLines :
      (table.uniques.map Constraint.unique).map (·.line database) =
        table.uniques.map (·.line database) := by
    rw [List.map_map]
    exact List.map_congr_left fun _ _ => line_unique
  have keyLines :
      (if database.inlineReferences then [] else table.foreignKeys.map Constraint.foreignKey).map
          (·.line database) =
        table.foreignKeys.filterMap (·.constraint? database) := by
    split
    · next inline =>
        simp [ForeignKey.constraint?, inline]
    · next notInline =>
        have separate : database.inlineReferences = false := Bool.eq_false_iff.mpr notInline
        rw [List.map_map, ← List.filterMap_eq_map]
        exact List.filterMap_congr fun _ _ => (constraint?_eq_line separate).symm
  rw [lines, constraints, List.map_append, uniqueLines, keyLines, List.append_assoc]

/-- The names of unique constraints are derived, and keys stand on different columns. -/
structure DerivesNames (table : TableDefinition) : Prop where
  uniques :
    ∀ constraint ∈ table.uniques,
      constraint.name = indexName "uid" table.id.table constraint.columns
  keysApart : (table.foreignKeys.map (·.column)).Nodup

/-- The digits in the names of a table's constraints differ if the texts under them do. -/
def DigestsApart (table : TableDefinition) (database : Database) : Prop :=
  (table.constraints database).Pairwise (Constraint.DigestsApart table.id.table)

/-- No semicolon stands in what the names of a table's constraints are derived from. -/
def PlainSubjects (table : TableDefinition) (database : Database) : Prop :=
  ∀ constraint ∈ table.constraints database, constraint.PlainSubject table.id.table

instance {table : TableDefinition} {database : Database} :
    Decidable (table.DigestsApart database) :=
  inferInstanceAs (Decidable
    ((table.constraints database).Pairwise (Constraint.DigestsApart table.id.table)))

instance {table : TableDefinition} {database : Database} :
    Decidable (table.PlainSubjects database) :=
  inferInstanceAs (Decidable
    (∀ constraint ∈ table.constraints database, constraint.PlainSubject table.id.table))

/-- The names of unique constraints are known by the columns. -/
theorem DerivesNames.columns_nodup
    (derives : table.DerivesNames)
    (distinct : ((table.constraints database).map Constraint.name).Nodup) :
    (table.uniques.map (·.columns)).Nodup := by
  rw [constraints, List.map_append, List.map_map] at distinct
  have namesDistinct : (table.uniques.map (·.name)).Nodup := distinct.of_append_left
  have derived :
      table.uniques.map (·.name) =
        (table.uniques.map (·.columns)).map (indexName "uid" table.id.table) := by
    rw [List.map_map]
    exact List.map_congr_left derives.uniques
  rw [derived] at namesDistinct
  exact namesDistinct.of_map _

section DigestsApart

variable (derives : table.DerivesNames) (apart : table.DigestsApart database)
  (plain : table.PlainSubjects database)

include derives apart plain

/-- Unique constraints over different columns have different names. -/
theorem DerivesNames.uniqueNames_nodup
    (columnsDistinct : (table.uniques.map (·.columns)).Nodup) :
    (table.uniques.map (·.name)).Nodup := by
  have uniquesApart := (List.pairwise_append.mp apart).1
  rw [List.pairwise_map] at uniquesApart
  rw [List.Nodup, List.pairwise_map] at columnsDistinct ⊢
  apply (columnsDistinct.and uniquesApart).imp_of_mem
  rintro constraint other member otherMember ⟨different, digestsApart⟩ sameName
  rw [derives.uniques constraint member, derives.uniques other otherMember] at sameName
  have sameSubject :=
    digestsApart.subject_eq
      (plain _ (List.mem_append_left _ (List.mem_map_of_mem member)))
      (plain _ (List.mem_append_left _ (List.mem_map_of_mem otherMember)))
      (shortDigest_eq_of_indexName_eq sameName)
  exact different (List.cons.inj sameSubject).2

/-- Foreign keys that are constraints of a table have different names. -/
theorem DerivesNames.keyNames_nodup
    (separate : database.inlineReferences = false) :
    (table.foreignKeys.map (·.constraintName)).Nodup := by
  have constraintsSplit :
      table.constraints database =
        table.uniques.map .unique ++ table.foreignKeys.map .foreignKey := by
    simp [constraints, separate]
  rw [DigestsApart, constraintsSplit] at apart
  rw [PlainSubjects, constraintsSplit] at plain
  have keysApart := (List.pairwise_append.mp apart).2.1
  rw [List.pairwise_map] at keysApart
  have columnsDistinct := derives.keysApart
  rw [List.Nodup, List.pairwise_map] at columnsDistinct ⊢
  apply (columnsDistinct.and keysApart).imp_of_mem
  rintro key other member otherMember ⟨different, digestsApart⟩ sameName
  have sameSubject :=
    digestsApart.subject_eq
      (plain _ (List.mem_append_right _ (List.mem_map_of_mem member)))
      (plain _ (List.mem_append_right _ (List.mem_map_of_mem otherMember)))
      (shortDigest_eq_of_foreignKeyName_eq sameName)
  simp only [Constraint.subject, List.cons.injEq] at sameSubject
  exact different sameSubject.2.1

/-- The names of a table's constraints differ exactly when its unique constraints do. -/
theorem DerivesNames.names_nodup_iff :
    ((table.constraints database).map Constraint.name).Nodup ↔
      (table.uniques.map (·.columns)).Nodup := by
  refine ⟨derives.columns_nodup, ?_⟩
  intro columnsDistinct
  have uniqueNames := derives.uniqueNames_nodup apart plain columnsDistinct
  rw [constraints, List.map_append, List.map_map, List.nodup_append']
  refine ⟨uniqueNames, ?_, ?_⟩
  · split
    · exact List.nodup_nil
    · next notInline =>
        rw [List.map_map]
        exact derives.keyNames_nodup apart plain (Bool.eq_false_iff.mpr notInline)
  · intro name ofUnique ofKey
    obtain ⟨constraint, member, rfl⟩ := List.mem_map.mp ofUnique
    split at ofKey
    · exact List.not_mem_nil ofKey
    · rw [List.map_map] at ofKey
      obtain ⟨key, _, sameName⟩ := List.mem_map.mp ofKey
      have derived := derives.uniques constraint member
      exact indexName_ne_foreignKeyName (derived.symm.trans sameName.symm)

end DigestsApart

end TableDefinition

end Sql

/-! ## Tables of entities and of relationships -/

/-- No two unique groups of an entity find the same columns. -/
def Entity.GroupsApart (entity : Entity) : Prop :=
  entity.uniqueTogether.Pairwise fun group other =>
    ∀ columns, entity.Resolves group.fields columns → ¬ entity.Resolves other.fields columns

namespace TableUnit

variable {model : Model} {database : Database} {entity owner : Entity}
  {relationship : Relationship} {table : TableDefinition}

/-- A constraint is over the columns of a unique group, and its name is derived from these. -/
structure GroupConstraint (entity : Entity) (group : UniqueGroup)
    (constraint : UniqueConstraint) : Prop where
  columns : entity.Resolves group.fields constraint.columns
  name : constraint.name = indexName "uid" entity.tableName constraint.columns

/-- What is made of a unique group is the constraint of that group. -/
theorem groupConstraint_of_uniqueConstraint
    {group : UniqueGroup}
    {constraint : UniqueConstraint}
    (made : uniqueConstraint entity group = .ok constraint) :
    GroupConstraint entity group constraint := by
  rw [uniqueConstraint] at made
  split at made
  · next columns found =>
      cases made
      exact ⟨(resolveColumns_eq_ok_iff.mp found).2, rfl⟩
  · cases made

/-- The table of an entity has one constraint for each unique group. -/
theorem TableOf.groupConstraints
    (tableOf : TableOf model database entity table) :
    List.Forall₂ (GroupConstraint entity) entity.uniqueTogether table.uniques := by
  have collected := collect_eq_ok_iff.mp tableOf.uniques
  exact collected.imp fun _ _ made => groupConstraint_of_uniqueConstraint made

/-- The unique constraints of a table are over different columns when its groups are apart. -/
theorem TableOf.columns_nodup_iff
    (tableOf : TableOf model database entity table) :
    (table.uniques.map (·.columns)).Nodup ↔ entity.GroupsApart := by
  rw [List.Nodup, List.pairwise_map, Entity.GroupsApart]
  refine (pairwise_iff_of_forall₂ tableOf.groupConstraints ?_).symm
  intro group constraint other otherConstraint ofGroup ofOther
  constructor
  · intro apart same
    exact apart constraint.columns ofGroup.columns (same ▸ ofOther.columns)
  · intro different columns resolves otherResolves
    apply different
    rw [ofGroup.columns.eq resolves, ofOther.columns.eq otherResolves]

/-- The table of a well-formed entity derives the names of its constraints. -/
theorem TableOf.derivesNames
    (tableOf : TableOf model database entity table)
    (wellFormed : entity.WellFormed) :
    table.DerivesNames := by
  refine { uniques := ?_, keysApart := tableOf.keyColumns_nodup wellFormed }
  intro constraint member
  obtain ⟨group, _, ofGroup⟩ := exists_left_of_forall₂ tableOf.groupConstraints member
  rw [tableOf.id]
  exact ofGroup.name

/-- A join table has no unique constraint, and its keys stand on different columns. -/
theorem JoinOf.derivesNames
    {join : JoinTable (List Statement)}
    (joinOf : JoinOf model database owner relationship join)
    (blockOf : BlockOf table join.body)
    (differ : relationship.backwardKeyFor owner.tableName ≠ relationship.forwardKeyName) :
    table.id = join.id ∧ table.uniques = [] ∧ table.DerivesNames := by
  obtain ⟨target, columns, rfl, standFor⟩ := joinOf.exists_joinDefinition blockOf
  refine ⟨rfl, rfl, ⟨fun _ member => absurd member List.not_mem_nil, ?_⟩⟩
  apply keyColumns_nodup_of_columns
  · intro column member key shown
    obtain ⟨side, _, stands⟩ := exists_left_of_forall₂ standFor member
    exact stands.key_column shown
  · have names :
        columns.map (·.name) =
          [relationship.backwardKeyFor owner.tableName, relationship.forwardKeyName] :=
      map_eq_of_forall₂ standFor fun _ _ stands => stands.name
    show (columns.map (·.name)).Nodup
    rw [names]
    simpa using differ

end TableUnit

/-! ## Scripts -/

/-- What the constraints of a table are, and when their names are different. -/
structure Sql.TableDefinition.ConstraintsNamed (table : TableDefinition) (model : Model)
    (database : Database) : Prop where
  lines :
    table.lines database =
      table.columns.map (·.line database) ++ (table.constraints database).map (·.line database)
  /-- Each unique group has a constraint of its own, whether or not another has the same one. -/
  ofGroups :
    ∀ entity ∈ model.entities, entity.tableId = table.id →
      List.Forall₂ (GroupConstraint entity) entity.uniqueTogether table.uniques
  /-- The table of a relationship is no entity's, so that its names are always different. -/
  distinct_iff :
    table.DigestsApart database → table.PlainSubjects database →
      (((table.constraints database).map (·.name)).Nodup ↔
        ∀ entity ∈ model.entities, entity.tableId = table.id → entity.GroupsApart)

section WellFormed

variable {model : Model} {database : Database} {entity owner : Entity}
  {relationship : Relationship} {table : TableDefinition} (wellFormed : model.WellFormed)

include wellFormed

/-- The constraints of the table of an entity are named as they are to be. -/
theorem TableUnit.TableOf.constraintsNamed
    (member : entity ∈ model.entities)
    (tableOf : TableOf model database entity table) :
    table.ConstraintsNamed model database := by
  have sole
      {other : Entity}
      (otherMember : other ∈ model.entities)
      (sameTable : other.tableId = table.id) :
      other = entity :=
    wellFormed.eq_of_tableId_eq otherMember member (sameTable.trans tableOf.id)
  refine {
    lines := TableDefinition.lines_eq_constraints
    ofGroups := ?_
    distinct_iff := ?_ }
  · intro other otherMember sameTable
    rw [sole otherMember sameTable]
    exact tableOf.groupConstraints
  · intro apart plain
    have derives := tableOf.derivesNames (wellFormed.entityFormed member)
    rw [derives.names_nodup_iff apart plain, tableOf.columns_nodup_iff]
    constructor
    · intro groupsApart other otherMember sameTable
      rw [sole otherMember sameTable]
      exact groupsApart
    · intro groupsApart
      exact groupsApart entity member tableOf.id.symm

/-- The constraints of a join table are named as they are to be. -/
theorem TableUnit.JoinOf.constraintsNamed
    {join : JoinTable (List Statement)}
    (member : owner ∈ model.entities)
    (joins : relationship ∈ joiningRelationships model owner)
    (joinOf : JoinOf model database owner relationship join)
    (blockOf : BlockOf table join.body) :
    table.ConstraintsNamed model database := by
  obtain ⟨declared, undeclared⟩ := List.mem_filter.mp joins
  obtain ⟨owned, manyToMany⟩ := List.mem_filter.mp declared
  have differ := wellFormed.joinColumnsDiffer owner member relationship owned manyToMany
  obtain ⟨sameId, noUniques, derives⟩ := joinOf.derivesNames blockOf differ
  have noEntity : ∀ entity ∈ model.entities, entity.tableId ≠ table.id := by
    rw [sameId, joinOf.1]
    exact entityOfTable?_isNone_iff.mp undeclared
  refine {
    lines := TableDefinition.lines_eq_constraints
    ofGroups := fun entity entityMember sameTable =>
      absurd sameTable (noEntity entity entityMember)
    distinct_iff := ?_ }
  intro apart plain
  rw [derives.names_nodup_iff apart plain, noUniques]
  constructor
  · intro _ entity entityMember sameTable
    exact absurd sameTable (noEntity entity entityMember)
  · intro _
    exact List.nodup_nil

end WellFormed

/--
The constraints in a table of a script are those of the unique groups of its
entity, one for each, and of the foreign keys, where the database has these on
lines of their own.  When short digests of different texts differ and no
semicolon stands in the names of tables and columns, the names of the
constraints are different exactly when no two unique groups are over the same
columns.
-/
theorem generate_constraintNames
    {model : Model}
    {target : Target}
    {script : Script}
    (generated : Script.generate model target = .ok script) :
    ∃ plan, Plan.ofModel model target.database = .ok plan ∧
      script = Script.ofPlan model.info.name target plan ∧
      ∀ table ∈ plan.tableDefinitions, table.ConstraintsNamed model target.database := by
  obtain ⟨plan, made, written⟩ := Script.plan_of_generate generated
  have planOf := Plan.planOf_of_ofModel made
  refine ⟨plan, made, written, ?_⟩
  intro table created
  rcases planOf.tableDefinition_cases created with
    ⟨entity, member, tableOf⟩ | ⟨owner, member, relationship, joins, join, joinOf, blockOf⟩
  · exact tableOf.constraintsNamed planOf.wellFormed member
  · exact joinOf.constraintsNamed planOf.wellFormed member joins blockOf

/-- Seats are told by hall, row and number, and by code, and some are kept for guests. -/
def theatreModel : Model where
  info := .named "Theatre"
  entities := [
    Entity.named "Hall",
    Entity.named "Guest",
    (((((((Entity.named "Seat").withField (.named "row" .string)).withField
      (.named "number" .int32)).withField (.named "code" .string)).withRelationship
      (.linking "hall" "Hall" .manyToOne)).withRelationship
      (.linking "guests" "Guest" (.manyToMany ""))).withUniqueTogether
      ["hall", "row", "number"]).withUniqueTogether ["hall", "code"]]

/-- A database that has foreign keys on lines of their own. -/
def theatreTarget : Target :=
  { Target.standard with database := .mySQL }

/-- The constraints of a theatre have distinct names in every table. -/
theorem generate_constraintNames_theatreModel :
    ∃ script plan, Script.generate theatreModel theatreTarget = .ok script ∧
      Plan.ofModel theatreModel .mySQL = .ok plan ∧
      script = Script.ofPlan theatreModel.info.name theatreTarget plan ∧
      plan.tableDefinitions.map (fun table => (table.constraints .mySQL).length) = [0, 0, 3, 2] ∧
      ∀ table ∈ plan.tableDefinitions,
        table.ConstraintsNamed theatreModel .mySQL ∧
          table.DigestsApart .mySQL ∧ table.PlainSubjects .mySQL ∧
          ((table.constraints .mySQL).map (·.name)).Nodup ∧
          ∀ entity ∈ theatreModel.entities, entity.tableId = table.id → entity.GroupsApart := by
  have found :
      ∃ plan ∈ (Plan.ofModel theatreModel theatreTarget.database).toOption,
        plan.tableDefinitions.map (fun table => (table.constraints .mySQL).length) =
            [0, 0, 3, 2] ∧
          ∀ table ∈ plan.tableDefinitions,
            table.DigestsApart .mySQL ∧ table.PlainSubjects .mySQL ∧
              ((table.constraints .mySQL).map (·.name)).Nodup := by
    decide +kernel
  obtain ⟨script, plan, generated, made, counts, distinct⟩ := Script.exists_of_plan found
  obtain ⟨_, planned, written, named⟩ := generate_constraintNames generated
  rw [made, Except.ok.injEq] at planned
  subst planned
  refine ⟨script, plan, generated, made, written, counts, ?_⟩
  intro table created
  obtain ⟨apart, plain, names⟩ := distinct table created
  have constraintsNamed := named table created
  exact
    ⟨constraintsNamed, apart, plain, names,
      (constraintsNamed.distinct_iff apart plain).mp names⟩

/-- Two unique groups of seats are the same, as a field and its column. -/
def seatModel : Model where
  info := .named "Seats"
  entities := [
    (((((Entity.named "Seat").withField
      { Field.named "row" .string with columnName := "seat_row" }).withField
      (.named "number" .int32)).withUniqueTogether ["row", "number"]).withUniqueTogether
      ["seat_row", "number"])]

/-- A unique group of shelves is over two columns, another over one that is named for both. -/
def shelfModel : Model where
  info := .named "Shelves"
  entities := [
    ((((((Entity.named "Shelf").withField (.named "location" .string)).withField
      (.named "row" .string)).withField
      { Field.named "place" .string with columnName := "location;row" }).withUniqueTogether
      ["location", "row"]).withUniqueTogether ["place"])]

/-- A script is written in which a table has a property, although its digests are apart. -/
def Model.WrittenWithTable (model : Model) (property : TableDefinition → Prop) : Prop :=
  ∃ script plan, Script.generate model Target.standard = .ok script ∧
    Plan.ofModel model Target.standard.database = .ok plan ∧
    ∃ table ∈ plan.tableDefinitions,
      table.DigestsApart Target.standard.database ∧ property table

/--
A constraint stands twice in a table when two groups are over the same
columns, and two constraints have one name when a semicolon in a column's name
makes one text of what they are about.
-/
theorem constraints_not_distinct :
    seatModel.WrittenWithTable (fun table =>
        ¬ ((table.constraints .postgreSQL).map (·.line .postgreSQL)).Nodup) ∧
      shelfModel.WrittenWithTable (fun table =>
        ((table.constraints .postgreSQL).map (·.line .postgreSQL)).Nodup ∧
          ¬ ((table.constraints .postgreSQL).map (·.name)).Nodup) := by
  constructor
  · apply Script.exists_of_plan
    decide +kernel
  · apply Script.exists_of_plan
    decide +kernel

end SchemaScript
