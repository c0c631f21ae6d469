import SchemaScript.Proofs.Script.Statements
import SchemaScript.Proofs.Sql.Name

/-!
# The names of indexes

A script creates every index once.  The name of an index is the one that its
author gives it, or is derived from its table and columns.  Within a namespace,
names that are derived differ as their digests do, as long as no name that they
are derived from holds the semicolon between the parts of a digest's text.
Names that authors give are taken over as they are.
-/

namespace SchemaScript

open Sql TableUnit

/-! ## Derived names -/

namespace Sql.IndexDefinition

variable {index other : IndexDefinition}

/-- What the name of an index is derived from: its table and its columns. -/
def subject (index : IndexDefinition) : List String :=
  index.table.table :: index.columns

/-- The name of an index unless its author gives another. -/
def derivedName (index : IndexDefinition) : String :=
  indexName (if index.unique then "uidx" else "idx") index.table.table index.columns

/-- No semicolon stands in what the name of an index is derived from. -/
def PlainSubject (index : IndexDefinition) : Prop :=
  ∀ name ∈ index.subject, ';' ∉ name.toList

/-- The short digests in two derived names differ if the texts under them do. -/
def DigestsApart (index other : IndexDefinition) : Prop :=
  shortDigest 6 index.subject = shortDigest 6 other.subject →
    index.name = index.derivedName → other.name = other.derivedName →
      digestInput index.subject = digestInput other.subject

instance {index other : IndexDefinition} : Decidable (DigestsApart index other) :=
  inferInstanceAs (Decidable (shortDigest 6 index.subject = shortDigest 6 other.subject →
    index.name = index.derivedName → other.name = other.derivedName →
      digestInput index.subject = digestInput other.subject))

/-- In a namespace, a derived name tells the index. -/
theorem DigestsApart.eq_of_name_eq
    (apart : DigestsApart index other)
    (derived : index.name = index.derivedName)
    (otherDerived : other.name = other.derivedName)
    (plain : index.PlainSubject)
    (otherPlain : other.PlainSubject)
    (sameNamespace : index.table.namespaceName? = other.table.namespaceName?)
    (sameName : index.name = other.name) :
    index = other := by
  have sameDerived : index.derivedName = other.derivedName := by
    rw [← derived, ← otherDerived, sameName]
  have sameText : digestInput index.subject = digestInput other.subject :=
    apart (shortDigest_eq_of_indexName_eq sameDerived) derived otherDerived
  have sameSubject : index.subject = other.subject :=
    digestInput_inj (List.cons_ne_nil _ _) (List.cons_ne_nil _ _) plain otherPlain sameText
  have sameUnique : index.unique = other.unique := eq_of_indexName_kind_eq sameDerived
  obtain ⟨name, ⟨namespace?, table⟩, columns, unique⟩ := index
  obtain ⟨otherName, ⟨otherNamespace?, otherTable⟩, otherColumns, otherUnique⟩ := other
  simp only [subject, List.cons.injEq] at sameName sameNamespace sameSubject sameUnique
  obtain ⟨sameTable, sameColumns⟩ := sameSubject
  subst sameName sameNamespace sameTable sameColumns sameUnique
  rfl

end Sql.IndexDefinition

/-! ## Indexes of plans -/

/-- The author of an entity has given an index its name. -/
def Sql.IndexDefinition.NamedByAuthor (model : Model) (index : IndexDefinition) : Prop :=
  ∃ entity ∈ model.entities, ∃ declared ∈ entity.indexes,
    declared.name = some index.name ∧ declaredIndex entity declared = .ok index

/-- An index of an entity has the name that its author gives it, or a derived one. -/
theorem TableUnit.namedByAuthor_or_derived
    {entity : Entity}
    {indexes : List IndexDefinition}
    {index : IndexDefinition}
    (found : indexesOf entity = .ok indexes)
    (member : index ∈ indexes) :
    (∃ declared ∈ entity.indexes,
        declared.name = some index.name ∧ declaredIndex entity declared = .ok index) ∨
      index.name = index.derivedName := by
  rcases cases_of_indexesOf found member with ⟨_, _, rfl⟩ | ⟨declared, listed, made⟩
  · exact .inr rfl
  · obtain ⟨columns, _, same⟩ := declaredIndex_eq_ok_iff.mp made
    cases given : declared.name with
    | none =>
        right
        rw [same, given]
        rfl
    | some name =>
        left
        refine ⟨declared, listed, ?_, made⟩
        rw [same, given]
        rfl

/-- The index of a join table, if there is one, has a derived name. -/
theorem TableUnit.joinIndexes_derived
    {id : TableId}
    {relationship : Relationship}
    {columns : List Column} :
    (joinIndexes id relationship columns).Nodup ∧
      ∀ index ∈ joinIndexes id relationship columns, index.name = index.derivedName := by
  rw [joinIndexes]
  split
  · refine ⟨List.nodup_singleton _, ?_⟩
    intro index member
    rw [List.mem_singleton.mp member]
    rfl
  · exact ⟨List.nodup_nil, by simp⟩

namespace Plan

/-- The short digests in the derived names of a plan differ if the texts under them do. -/
def DigestsApart (plan : Plan) : Prop :=
  plan.indexes.Pairwise IndexDefinition.DigestsApart

instance {plan : Plan} : Decidable plan.DigestsApart :=
  inferInstanceAs (Decidable (plan.indexes.Pairwise IndexDefinition.DigestsApart))

namespace PlanOf

variable {model : Model} {database : Database} {plan : Plan}

/-- The indexes of a plan are those of its creations, one after the other. -/
theorem indexes_eq_flatMap :
    plan.indexes =
      plan.creations.flatMap fun creation => creation.statements.filterMap Statement.index? := by
  rw [indexes, statements_eq_flatMap, List.filterMap_flatMap]

/-- The indexes that are created with a table are on this table, each once. -/
theorem indexes_of_creation
    (planOf : PlanOf model database plan)
    {creation : Creation}
    (created : creation ∈ plan.creations) :
    (creation.statements.filterMap Statement.index?).Nodup ∧
      ∀ index ∈ creation.statements.filterMap Statement.index?,
        creation.object = .inr index.table ∧
          (index.NamedByAuthor model ∨ index.name = index.derivedName) := by
  rcases planOf.creation_cases created with
    ⟨_, _, rfl⟩ | ⟨entity, entityMember, unit, unitOf, rfl⟩ | ⟨_, _, _, _, join, joinOf, rfl⟩
  · exact ⟨List.nodup_nil, fun _ member => absurd member List.not_mem_nil⟩
  · simp only [Creation.statements]
    refine ⟨nodup_of_indexesOf unitOf.indexes, ?_⟩
    intro index member
    rw [unitOf.tableBlock.table_of_index member]
    refine ⟨rfl, (namedByAuthor_or_derived unitOf.indexes member).imp_left ?_⟩
    intro named
    exact ⟨entity, entityMember, named⟩
  · obtain ⟨columns, indexes⟩ := joinOf.indexes
    obtain ⟨distinct, derived⟩ := @joinIndexes_derived join.id _ columns
    simp only [Creation.statements]
    refine ⟨indexes ▸ distinct, ?_⟩
    intro index member
    rw [joinOf.tableBlock.table_of_index member]
    exact ⟨rfl, .inr (derived index (indexes ▸ member))⟩

/-- A name that no author gives is derived. -/
theorem derived_of_not_namedByAuthor
    (planOf : PlanOf model database plan)
    {index : IndexDefinition}
    (member : index ∈ plan.indexes)
    (notNamed : ¬ index.NamedByAuthor model) :
    index.name = index.derivedName := by
  rw [indexes_eq_flatMap] at member
  obtain ⟨creation, created, inCreation⟩ := List.mem_flatMap.mp member
  exact ((planOf.indexes_of_creation created).2 index inCreation).2.resolve_left notNamed

/-- No index is created twice. -/
theorem indexes_nodup
    (made : ofModel model database = .ok plan) :
    plan.indexes.Nodup := by
  have planOf := planOf_of_ofModel made
  rw [indexes_eq_flatMap, List.nodup_flatMap]
  refine ⟨fun creation created => (planOf.indexes_of_creation created).1, ?_⟩
  have objectsDiffer := List.pairwise_map.mp (creations_distinct made)
  refine objectsDiffer.imp_of_mem ?_
  intro creation other created otherCreated differ index inCreation inOther
  have onTable := ((planOf.indexes_of_creation created).2 index inCreation).1
  have onOtherTable := ((planOf.indexes_of_creation otherCreated).2 index inOther).1
  exact differ (onTable.trans onOtherTable.symm)

end PlanOf

end Plan

/-! ## Scripts -/

/--
A script does not create the same index twice.  When short digests of
different texts differ, no two indexes in a namespace have the same name,
unless an author has given one of the names or a semicolon stands in the name
of a table or column that one of them is derived from.
-/
theorem generate_indexNames
    {model : Model}
    {target : Target}
    {script : Script}
    (generated : Script.generate model target = .ok script) :
    ∃ plan, Plan.ofModel model target.database = .ok plan ∧
      script = Script.ofPlan model.info.name target plan ∧
      (plan.indexes.map (·.sql target)).Nodup ∧
      (plan.DigestsApart →
        plan.indexes.Pairwise fun index other =>
          index.table.namespaceName? = other.table.namespaceName? →
          ¬ index.NamedByAuthor model → ¬ other.NamedByAuthor model →
          index.PlainSubject → other.PlainSubject →
            index.name ≠ other.name) := by
  obtain ⟨plan, made, written⟩ := Script.plan_of_generate generated
  have planOf := Plan.planOf_of_ofModel made
  have distinct := Plan.PlanOf.indexes_nodup made
  refine ⟨plan, made, written, distinct.map IndexDefinition.sql_injective, ?_⟩
  intro apart
  refine (distinct.and apart).imp_of_mem ?_
  rintro index other member otherMember ⟨differ, digestsApart⟩ sameNamespace notNamed otherNotNamed
    plain otherPlain sameName
  exact differ
    (digestsApart.eq_of_name_eq
      (planOf.derived_of_not_namedByAuthor member notNamed)
      (planOf.derived_of_not_namedByAuthor otherMember otherNotNamed)
      plain otherPlain sameNamespace sameName)

/-- Books are indexed by room in two ways, and each of them stands once on a shelf. -/
def archiveModel : Model where
  info := .named "Archive"
  entities := [
    Entity.named "Shelf",
    (((Entity.named "Book").withField { Field.named "room" .string with indexed := true }).withIndex
      { name := none, fields := ["room", "id"], unique := true }).withRelationship
      { Relationship.linking "shelves" "Shelf" (.manyToMany "") with uniquePairs := true }]

/-- The three indexes of an archive have distinct statements and names. -/
theorem generate_indexNames_archiveModel :
    ∃ script plan, Script.generate archiveModel Target.standard = .ok script ∧
      Plan.ofModel archiveModel Target.standard.database = .ok plan ∧
      script = Script.ofPlan archiveModel.info.name Target.standard plan ∧
      plan.indexes.length = 3 ∧
      (plan.indexes.map (·.sql Target.standard)).Nodup ∧
      plan.DigestsApart ∧
      plan.indexes.Pairwise fun index other =>
        index.table.namespaceName? = other.table.namespaceName? →
        ¬ index.NamedByAuthor archiveModel → ¬ other.NamedByAuthor archiveModel →
        index.PlainSubject → other.PlainSubject →
          index.name ≠ other.name := by
  have found :
      ∃ plan ∈ (Plan.ofModel archiveModel Target.standard.database).toOption,
        plan.indexes.length = 3 ∧ plan.DigestsApart := by
    decide +kernel
  obtain ⟨script, plan, generated, made, count, apart⟩ := Script.exists_of_plan found
  obtain ⟨_, planned, same, distinct, differ⟩ := generate_indexNames generated
  rw [made] at planned
  cases planned
  exact ⟨script, plan, generated, made, same, count, distinct, apart, differ apart⟩

/-- Two entities whose authors give their indexes the same name. -/
def cinemaModel : Model where
  info := .named "Cinema"
  entities := ["Book", "Film"].map fun name =>
    ((Entity.named name).withField (.named "title" .string)).withIndex
      { name := some "by_title", fields := ["title"], unique := false }

/-- An entity with two columns, and one whose name is theirs with a semicolon between them. -/
def storeModel : Model where
  info := .named "Store"
  entities := [
    (((((Entity.named "Shelf").withField (.named "location" .string)).withField
      (.named "row" .string)).withField
      { Field.named "place" .string with columnName := "location;row" }).withIndex
      { name := none, fields := ["location", "row"], unique := false }).withIndex
      { name := none, fields := ["place"], unique := false }]

/--
A script is written for a model in which two different indexes in a namespace
have the same name, although short digests of different texts differ.
-/
def Model.WrittenNamesakes (model : Model) : Prop :=
  ∃ script plan, Script.generate model Target.standard = .ok script ∧
    Plan.ofModel model Target.standard.database = .ok plan ∧
    plan.DigestsApart ∧
    ∃ index ∈ plan.indexes, ∃ other ∈ plan.indexes,
      index.sql Target.standard ≠ other.sql Target.standard ∧
      index.table.namespaceName? = other.table.namespaceName? ∧
      index.name = other.name

/--
Different indexes have the same name when their authors give it to both, or
when a semicolon in a column's name makes one text of two subjects.
-/
theorem namesakes_indexNames :
    cinemaModel.WrittenNamesakes ∧ storeModel.WrittenNamesakes := by
  constructor
  · apply Script.exists_of_plan
    decide +kernel
  · apply Script.exists_of_plan
    decide +kernel

end SchemaScript
