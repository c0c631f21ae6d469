import SchemaScript.Proofs.Plan
import SchemaScript.Proofs.TableUnit.Blocks

/-!
# The order of creation

A script creates namespaces, then the tables of entities, then join tables,
each with a block of its own.  Whatever a block refers to has been created by
an earlier one, apart from the table that the block itself creates.
-/

namespace SchemaScript

open Sql TableUnit

/-! ## Creations -/

/-- What a script creates with one block: a namespace, or a table with its statements. -/
inductive Creation where
  | schema (name : String)
  | table (id : TableId) (body : List Statement)

namespace Creation

/-- A creation in writing. -/
def sql (target : Target) : Creation → String
  | .schema name => (Statement.createNamespace name).sql target
  | .table _ body => block target body

/--
A block creates the table it is for, in a namespace that has been created, if
in any; the foreign keys of this table refer to tables that have been created
or to the table itself.
-/
structure TableFounded (earlier : List Creation) (id : TableId) (body : List Statement) :
    Prop where
  namespaceCreated : ∀ name, id.namespaceName? = some name → .schema name ∈ earlier
  tableCreated : ∃ definition, BlockOf definition body ∧ definition.id = id
  referencesCreated :
    ∀ definition, .createTable definition ∈ body →
      ∀ key ∈ definition.foreignKeys,
        key.target = id ∨ ∃ other, .table key.target other ∈ earlier

/-- Whatever a creation refers to has been created earlier. -/
def FoundedOn (earlier : List Creation) : Creation → Prop
  | .schema _ => True
  | .table created body => TableFounded earlier created body

/-- Every creation of a list is founded on what was created before it. -/
def Founded (earlier : List Creation) : List Creation → Prop
  | [] => True
  | creation :: later =>
      FoundedOn earlier creation ∧ Founded (earlier ++ [creation]) later

/-- Creations stay founded when others that are founded on them follow. -/
theorem founded_append
    {earlier first second : List Creation}
    (firstFounded : Founded earlier first)
    (secondFounded : Founded (earlier ++ first) second) :
    Founded earlier (first ++ second) := by
  induction first generalizing earlier with
  | nil =>
      simpa using secondFounded
  | cons creation later inductionHypothesis =>
      refine ⟨firstFounded.1, inductionHypothesis firstFounded.2 ?_⟩
      simpa using secondFounded

/-- In a founded list, what stands before a creation founds it. -/
theorem Founded.foundedOn
    {known earlier later : List Creation}
    {creation : Creation}
    (founded : Founded known (earlier ++ creation :: later)) :
    FoundedOn (known ++ earlier) creation := by
  induction earlier generalizing known with
  | nil =>
      simpa using founded.1
  | cons first rest inductionHypothesis =>
      simpa using inductionHypothesis founded.2

/-- Creations that are founded on what was there from the start are founded in any order. -/
theorem founded_of_forall
    {earlier creations : List Creation}
    (foundedOn :
      ∀ creation ∈ creations, ∀ known, earlier ⊆ known → FoundedOn known creation) :
    Founded earlier creations := by
  induction creations generalizing earlier with
  | nil =>
      trivial
  | cons creation later inductionHypothesis =>
      refine ⟨foundedOn creation List.mem_cons_self earlier (List.Subset.refl earlier), ?_⟩
      apply inductionHypothesis
      intro each member known contains
      apply foundedOn each (List.mem_cons_of_mem creation member) known
      exact fun _ created => contains (List.mem_append_left _ created)

end Creation

/-- What a plan creates, in the order in which its script does. -/
def Plan.creations (plan : Plan) : List Creation :=
  plan.namespaces.map .schema ++
    plan.units.map (fun unit => .table unit.id unit.body) ++
    plan.units.flatMap fun unit => unit.joinTables.map fun join => .table join.id join.body

namespace Plan.PlanOf

open Creation

variable {model : Model} {database : Database} {plan : Plan}

/-- A unit is founded when its namespace and the tables it depends on have been created. -/
theorem unit_founded
    (planOf : PlanOf model database plan)
    {unit : TableUnit (List Statement)}
    (member : unit ∈ plan.units)
    {earlier : List Creation}
    (namespacesCreated : plan.namespaces.map .schema ⊆ earlier)
    (dependenciesCreated :
      ∀ id ∈ unit.dependencies, id = unit.id ∨ ∃ other, .table id other ∈ earlier) :
    TableFounded earlier unit.id unit.body := by
  obtain ⟨entity, entityMember, unitOf⟩ := planOf.entity_of_unit member
  obtain ⟨table, tableOf, blockOf, dependencies⟩ := unitOf.blockOf
  refine {
    namespaceCreated := ?_
    tableCreated := ⟨table, blockOf, tableOf.id.trans unitOf.id.symm⟩
    referencesCreated := ?_ }
  · intro name lies
    rw [unitOf.id] at lies
    have known := planOf.namespaceKnown entity entityMember name lies
    exact namespacesCreated (List.mem_map_of_mem known)
  · intro definition created key keyMember
    have same := blockOf.eq_of_createTable created
    subst same
    apply dependenciesCreated
    rw [dependencies, mem_targets]
    exact ⟨key, keyMember, rfl⟩

/-- The tables of the units are founded, each on those created when its turn comes. -/
theorem units_founded
    (planOf : PlanOf model database plan)
    {placed : List TableId}
    {units : List (TableUnit (List Statement))}
    (inPlan : units ⊆ plan.units)
    (creatable : Creatable placed units)
    {earlier : List Creation}
    (namespacesCreated : plan.namespaces.map .schema ⊆ earlier)
    (placedCreated : ∀ id ∈ placed, ∃ other, .table id other ∈ earlier) :
    Founded earlier (units.map fun unit => .table unit.id unit.body) := by
  induction units generalizing placed earlier with
  | nil =>
      trivial
  | cons unit later inductionHypothesis =>
      obtain ⟨canCreate, laterCreatable⟩ := creatable
      constructor
      · apply planOf.unit_founded (inPlan List.mem_cons_self) namespacesCreated
        intro id depends
        exact (canCreate id depends).imp_right (placedCreated id)
      · apply inductionHypothesis (List.subset_of_cons_subset inPlan) laterCreatable
        · exact List.Subset.trans namespacesCreated (List.subset_append_left earlier _)
        · intro id member
          rcases List.mem_cons.mp member with isUnit | inPlaced
          · subst isUnit
            exact ⟨unit.body, by simp⟩
          · obtain ⟨other, created⟩ := placedCreated id inPlaced
            exact ⟨other, List.mem_append_left _ created⟩

/-- A join table is founded once all namespaces and tables of entities have been created. -/
theorem join_founded
    (planOf : PlanOf model database plan)
    {unit : TableUnit (List Statement)}
    (member : unit ∈ plan.units)
    {join : JoinTable (List Statement)}
    (joinMember : join ∈ unit.joinTables)
    {earlier : List Creation}
    (namespacesCreated : plan.namespaces.map .schema ⊆ earlier)
    (tablesCreated : plan.units.map (fun unit => .table unit.id unit.body) ⊆ earlier) :
    TableFounded earlier join.id join.body := by
  obtain ⟨owner, ownerMember, unitOf⟩ := planOf.entity_of_unit member
  obtain ⟨relationship, _, joinOf⟩ := exists_left_of_forall₂ unitOf.joinTables joinMember
  obtain ⟨target, columns, blockOf, targetFound, columnsFound⟩ := joinOf.blockOf
  have entityCreated
      (entity : Entity)
      (entityMember : entity ∈ model.entities) :
      ∃ other, .table entity.tableId other ∈ earlier := by
    have listed : entity.tableId ∈ plan.tables :=
      planOf.tables_perm.mem_iff.mpr (List.mem_map_of_mem entityMember)
    obtain ⟨other, otherMember, same⟩ := List.mem_map.mp listed
    refine ⟨other.body, tablesCreated (List.mem_map.mpr ⟨other, otherMember, ?_⟩)⟩
    rw [same]
  refine {
    namespaceCreated := ?_
    tableCreated := ⟨_, blockOf, rfl⟩
    referencesCreated := ?_ }
  · intro name lies
    rw [joinOf.1] at lies
    have known := planOf.namespaceKnown owner ownerMember name lies
    exact namespacesCreated (List.mem_map_of_mem known)
  · intro definition created key keyMember
    right
    have same := blockOf.eq_of_createTable created
    subst same
    obtain ⟨column, columnMember, shown⟩ := List.mem_filterMap.mp keyMember
    obtain ⟨side, sideMember, columnFound⟩ := exists_left_of_forall₂ columnsFound columnMember
    have toSide : key.target = side.entity.tableId := by
      simp only [joinColumn, bind_eq_ok_iff] at columnFound
      obtain ⟨_, _, _, _, sameColumn⟩ := columnFound
      cases sameColumn
      simp only [Option.ite_none_right_eq_some, Option.some.injEq] at shown
      rw [← shown.2]
    rw [toSide]
    simp only [joinSides, List.mem_cons, List.not_mem_nil, or_false] at sideMember
    rcases sideMember with isOwner | isTarget
    · subst isOwner
      exact entityCreated owner ownerMember
    · subst isTarget
      exact entityCreated target (Model.mem_of_requireEntity targetFound)

/-- Everything that a plan creates is founded on what it created before. -/
theorem creations_founded
    (planOf : PlanOf model database plan) :
    Founded [] plan.creations := by
  obtain ⟨_, _, run⟩ := planOf.units
  apply founded_append
  · apply founded_append
    · apply founded_of_forall
      intro creation member _ _
      obtain ⟨_, _, rfl⟩ := List.mem_map.mp member
      trivial
    · apply planOf.units_founded (List.Subset.refl plan.units) run.creatable
      · simp
      · simp
  · apply founded_of_forall
    intro creation member known contains
    obtain ⟨unit, unitMember, inUnit⟩ := List.mem_flatMap.mp member
    obtain ⟨join, joinMember, rfl⟩ := List.mem_map.mp inUnit
    apply planOf.join_founded unitMember joinMember
    · intro creation created
      exact contains (by simpa using Or.inl (by simpa using created))
    · intro creation created
      exact contains (by simpa using Or.inr (by simpa using created))

end Plan.PlanOf

/-! ## Scripts -/

/-- The name of the namespace or the identity of the table that is created. -/
def Creation.object : Creation → String ⊕ TableId
  | .schema name => .inl name
  | .table created _ => .inr created

/-- The text of a plan's script is that of its creations, one after another. -/
theorem composeScript_eq_creations
    {target : Target}
    {plan : Plan} :
    composeScript target plan.namespaces (plan.units.map (TableUnit.map (block target))) =
      "\n".intercalate (plan.creations.map (Creation.sql target)) := by
  simp only [composeScript, scriptBlocks, Plan.creations, List.map_append, List.map_map,
    List.flatMap_map, List.map_flatMap, TableUnit.map]
  rfl

/--
A script is made of creations: its namespaces, the tables of entities, and
the join tables.  Each of them is founded on those before it: every foreign
key refers to a table that was created earlier or to its own table, and every
table lies in no namespace or in one that was created earlier.
-/
theorem generate_founded
    {model : Model}
    {target : Target}
    {script : Script}
    (generated : Script.generate model target = .ok script) :
    ∃ plan, Plan.ofModel model target.database = .ok plan ∧
      script = Script.ofPlan model.info.name target plan ∧
      script.sql = "\n".intercalate (plan.creations.map (Creation.sql target)) ∧
      plan.creations.map Creation.object =
        script.namespaces.map .inl ++ script.tables.map .inr ++ script.joinTables.map .inr ∧
      ∀ earlier creation later,
        plan.creations = earlier ++ creation :: later → creation.FoundedOn earlier := by
  obtain ⟨plan, made, written⟩ := Script.plan_of_generate generated
  refine ⟨plan, made, written, ?_, ?_, ?_⟩
  · rw [written]
    exact composeScript_eq_creations
  · rw [written]
    simp only [Plan.creations, Script.ofPlan, Plan.tables, Plan.joinTables, List.map_append,
      List.map_map, List.map_flatMap]
    rfl
  · intro earlier creation later shape
    have founded := (Plan.planOf_of_ofModel made).creations_founded
    rw [shape] at founded
    simpa using founded.foundedOn

/-- Every statement of a league rests on what was created before it. -/
theorem generate_founded_leagueModel :
    ∃ script, Script.generate leagueModel Target.standard = .ok script ∧
      ∃ plan, Plan.ofModel leagueModel Target.standard.database = .ok plan ∧
        script = Script.ofPlan leagueModel.info.name Target.standard plan ∧
        script.sql = "\n".intercalate (plan.creations.map (Creation.sql Target.standard)) ∧
        plan.creations.map Creation.object =
          script.namespaces.map .inl ++ script.tables.map .inr ++
            script.joinTables.map .inr ∧
        ∀ earlier creation later,
          plan.creations = earlier ++ creation :: later → creation.FoundedOn earlier := by
  obtain ⟨script, generated⟩ := exists_generate_leagueModel
  exact ⟨script, generated, generate_founded generated⟩

end SchemaScript
