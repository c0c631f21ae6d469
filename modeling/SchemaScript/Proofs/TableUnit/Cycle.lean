import Mathlib.Data.Fintype.Pigeonhole
import Mathlib.Logic.Relation
import SchemaScript.Proofs.Plan

namespace SchemaScript.TableUnit

open Relation

/-!
# Cycles of tables

Tables that refer to each other only can be put in order unless some of them
form a cycle.  The ordering never looks for a cycle: it places tables until it
gets stuck.  What it places reaches no cycle, since a table that is placed
refers to placed tables; what it is stuck with reaches one, since a table it
is stuck with refers to another one, and there are finitely many of them.
-/

variable {Body : Type} {units : List (TableUnit Body)}

/-- A table refers to another one or to itself. -/
def DependsOn (units : List (TableUnit Body)) (source target : TableId) : Prop :=
  ∃ unit ∈ units, unit.id = source ∧ target ∈ unit.dependencies

/-- A table lies on a cycle of references that leads through another table. -/
def OnCycle (units : List (TableUnit Body)) (id : TableId) : Prop :=
  ∃ other, other ≠ id ∧
    ReflTransGen (DependsOn units) id other ∧ ReflTransGen (DependsOn units) other id

/-- References lead from a table to a cycle. -/
def ReachesCycle (units : List (TableUnit Body)) (id : TableId) : Prop :=
  ∃ table, ReflTransGen (DependsOn units) id table ∧ OnCycle units table

/-- A walk to another table leaves the first table for good by a reference to another one. -/
theorem exists_step_of_walk
    {first last : TableId}
    (walk : ReflTransGen (DependsOn units) first last)
    (different : last ≠ first) :
    ∃ next, next ≠ first ∧ DependsOn units first next ∧
      ReflTransGen (DependsOn units) next last := by
  induction walk using ReflTransGen.head_induction_on with
  | refl =>
      exact (different rfl).elim
  | @head first next depends walk inductionHypothesis =>
      by_cases stays : next = first
      · subst stays
        exact inductionHypothesis different
      · exact ⟨next, stays, depends, walk⟩

/-- A table that reaches a cycle refers to another table that does. -/
theorem ReachesCycle.exists_step
    {id : TableId}
    (reaches : ReachesCycle units id) :
    ∃ next, next ≠ id ∧ DependsOn units id next ∧ ReachesCycle units next := by
  obtain ⟨table, walk, other, different, there, back⟩ := reaches
  by_cases onCycle : table = id
  · subst onCycle
    obtain ⟨next, isOther, depends, rest⟩ := exists_step_of_walk there different
    exact ⟨next, isOther, depends, table, rest.trans back, other, different, there, back⟩
  · obtain ⟨next, isOther, depends, rest⟩ := exists_step_of_walk walk onCycle
    exact ⟨next, isOther, depends, table, rest, other, different, there, back⟩

/--
The listed tables are those that reach a cycle, each once and in the order of
declaration.  Each has an id of its own; ids can be displayed alike all the same,
as those of `b` in the namespace `a` and of `a.b` in none are.
-/
structure ListsReaching (units listed : List (TableUnit Body)) : Prop where
  declarationOrder : listed.Sublist units
  once : (listed.map (·.id)).Nodup
  reaching : ∀ unit ∈ units, unit ∈ listed ↔ ReachesCycle units unit.id

/-! ## Placed tables -/

/-- Tables that can be created one after another reach no cycle if those before them do not. -/
theorem not_reachesCycle_of_creatable
    (selfContained : SelfContained units)
    {placed : List TableId}
    {ordered : List (TableUnit Body)}
    (creatable : Creatable placed ordered)
    (inUnits : ordered ⊆ units)
    (placedFree : ∀ id ∈ placed, ¬ ReachesCycle units id) :
    ∀ unit ∈ ordered, ¬ ReachesCycle units unit.id := by
  induction ordered generalizing placed with
  | nil =>
      simp
  | cons unit later inductionHypothesis =>
      obtain ⟨canCreate, laterCreatable⟩ := creatable
      have unitFree : ¬ ReachesCycle units unit.id := by
        intro reaches
        obtain ⟨next, isOther, ⟨source, sourceMember, sameId, depends⟩, nextReaches⟩ :=
          reaches.exists_step
        have same : source = unit :=
          selfContained.eq_of_id_eq sourceMember (inUnits List.mem_cons_self) sameId
        subst same
        rcases canCreate next depends with isSelf | inPlaced
        · exact isOther isSelf
        · exact placedFree next inPlaced nextReaches
      intro each member
      rcases List.mem_cons.mp member with isUnit | inLater
      · subst isUnit
        exact unitFree
      · apply inductionHypothesis laterCreatable (List.subset_of_cons_subset inUnits)
        · intro id idMember
          rcases List.mem_cons.mp idMember with isUnit | inPlaced
          · subst isUnit
            exact unitFree
          · exact placedFree id inPlaced
        · exact inLater

/-! ## Stuck tables -/

/--
Where each of finitely many tables refers to another one of them, all of them
reach a cycle: a walk among them comes to some table twice.
-/
theorem reachesCycle_of_successors
    {ids : List TableId}
    (successor : ∀ id ∈ ids, ∃ target ∈ ids, target ≠ id ∧ DependsOn units id target)
    {id : TableId}
    (member : id ∈ ids) :
    ReachesCycle units id := by
  choose next inIds isOther depends using
    fun each : { id // id ∈ ids } => successor each.1 each.2
  let advance (each : { id // id ∈ ids }) : { id // id ∈ ids } :=
    ⟨next each, inIds each⟩
  have walk
      (count : Nat)
      (start : { id // id ∈ ids }) :
      ReflTransGen (DependsOn units) start.1 (advance^[count] start).1 := by
    induction count generalizing start with
    | zero =>
        exact .refl
    | succ count inductionHypothesis =>
        rw [Function.iterate_succ_apply]
        exact .head (depends start) (inductionHypothesis (advance start))
  obtain ⟨one, another, different, same⟩ :=
    Finite.exists_ne_map_eq_of_infinite fun count : Nat => advance^[count] ⟨id, member⟩
  wlog earlier : one < another generalizing one another
  · exact this another one different.symm same.symm (by omega)
  let met := advance^[one] ⟨id, member⟩
  have returns : advance^[another - one - 1] (advance met) = met := by
    have steps : (another - one - 1).succ + one = another := by omega
    rw [← Function.iterate_succ_apply, ← Function.iterate_add_apply, steps]
    exact same.symm
  have back := walk (another - one - 1) (advance met)
  rw [returns] at back
  exact ⟨met.1, walk one ⟨id, member⟩, next met, isOther met, .single (depends met), back⟩

/-- A table that a run is stuck with refers to another one that the run is stuck with. -/
theorem Run.stuck_successor
    (selfContained : SelfContained units)
    {ordered stuck : List (TableUnit Body)}
    (run : Run [] units ordered stuck)
    {unit : TableUnit Body}
    (member : unit ∈ stuck) :
    ∃ target ∈ stuck.map (·.id), target ≠ unit.id ∧ DependsOn units unit.id target := by
  have declared : unit ∈ units := run.declarationOrder.subset member
  obtain ⟨target, depends, isOther, _, notOrdered⟩ := run.blocked unit member
  obtain ⟨other, otherDeclared, rfl⟩ := selfContained.closed unit declared target depends
  have placedOrStuck : other ∈ ordered ++ stuck :=
    run.complete.mem_iff.mpr otherDeclared
  have otherStuck : other ∈ stuck :=
    (List.mem_append.mp placedOrStuck).resolve_left
      fun inOrdered => notOrdered (List.mem_map_of_mem inOrdered)
  exact
    ⟨other.id, List.mem_map_of_mem otherStuck, isOther, unit, declared, rfl, depends⟩

/-- A run is stuck with exactly the tables that reach a cycle. -/
theorem Run.mem_stuck_iff
    (selfContained : SelfContained units)
    {ordered stuck : List (TableUnit Body)}
    (run : Run [] units ordered stuck)
    {unit : TableUnit Body}
    (declared : unit ∈ units) :
    unit ∈ stuck ↔ ReachesCycle units unit.id := by
  constructor
  · intro member
    have listed : unit.id ∈ stuck.map (·.id) := List.mem_map_of_mem member
    refine reachesCycle_of_successors ?_ listed
    intro id idMember
    obtain ⟨stuckUnit, stuckMember, rfl⟩ := List.mem_map.mp idMember
    exact run.stuck_successor selfContained stuckMember
  · intro reaches
    have placedOrStuck : unit ∈ ordered ++ stuck :=
      run.complete.mem_iff.mpr declared
    have orderedDeclared : ordered ⊆ units :=
      fun _ member => run.complete.mem_iff.mp (List.mem_append_left stuck member)
    refine (List.mem_append.mp placedOrStuck).resolve_left fun inOrdered => ?_
    exact
      not_reachesCycle_of_creatable selfContained run.creatable orderedDeclared (by simp) unit
        inOrdered reaches

/-- What a run leaves over is what reaches a cycle. -/
theorem Run.listsReaching
    (selfContained : SelfContained units)
    {ordered stuck : List (TableUnit Body)}
    (run : Run [] units ordered stuck) :
    ListsReaching units stuck where
  declarationOrder := run.declarationOrder
  once := (run.declarationOrder.map (·.id)).nodup selfContained.distinct
  reaching _ declared := run.mem_stuck_iff selfContained declared

/-- A table on a cycle is that of a unit. -/
theorem OnCycle.exists_unit
    {id : TableId}
    (onCycle : OnCycle units id) :
    ∃ unit ∈ units, unit.id = id := by
  obtain ⟨other, different, there, _⟩ := onCycle
  obtain ⟨_, _, ⟨unit, declared, sameId, _⟩, _⟩ := exists_step_of_walk there different
  exact ⟨unit, declared, sameId⟩

/-- A run gets stuck exactly when there is a cycle. -/
theorem Run.stuck_ne_nil_iff
    (selfContained : SelfContained units)
    {ordered stuck : List (TableUnit Body)}
    (run : Run [] units ordered stuck) :
    stuck ≠ [] ↔ ∃ id, OnCycle units id := by
  constructor
  · intro someStuck
    obtain ⟨unit, member⟩ := List.exists_mem_of_ne_nil stuck someStuck
    have declared : unit ∈ units := run.declarationOrder.subset member
    obtain ⟨table, _, onCycle⟩ := (run.mem_stuck_iff selfContained declared).mp member
    exact ⟨table, onCycle⟩
  · intro ⟨id, onCycle⟩
    obtain ⟨unit, declared, rfl⟩ := onCycle.exists_unit
    have member : unit ∈ stuck :=
      (run.mem_stuck_iff selfContained declared).mpr ⟨unit.id, .refl, onCycle⟩
    exact List.ne_nil_of_mem member

/-- Tables that refer to each other only can be put in order unless there is a cycle. -/
theorem exists_order_iff
    (selfContained : SelfContained units) :
    (∃ ordered, order units = .ok ordered) ↔ ¬ ∃ id, OnCycle units id := by
  obtain ⟨ordered, stuck, run, outcome⟩ := orderAfter_run [] units
  rw [order, outcome, ← run.stuck_ne_nil_iff selfContained, not_not]
  by_cases nothingStuck : stuck = []
  · simp [nothingStuck]
  · simp [nothingStuck]

/-! ## Ordering -/

/--
Ordering fails exactly when the tables form a cycle through two of them or
more.  It then names the tables that reach a cycle, each once and in the order
of their declaration.  The units of a valid model are such tables as this is
said of.
-/
theorem order_error_iff_onCycle :
    (∀ {Body : Type} {units : List (TableUnit Body)}, SelfContained units →
      ((∃ error, order units = .error error) ↔ ∃ id, OnCycle units id) ∧
        ∀ error, order units = .error error →
          ∃ stuck, ListsReaching units stuck ∧
            error = .cyclicDependency (stuck.map fun unit => unit.id.display)) ∧
      ∀ {model : Model} {database : Database} {namespaces : Namespaces}
        {units : List (TableUnit (List Sql.Statement))},
        model.validate = .ok () →
          Plan.unitsOf model database [] model.entities = .ok (namespaces, units) →
            SelfContained units := by
  constructor
  · intro Body units selfContained
    constructor
    · constructor
      · intro ⟨error, failed⟩
        obtain ⟨_, _, run, someStuck, _⟩ := run_of_order_eq_error failed
        exact (run.stuck_ne_nil_iff selfContained).mp someStuck
      · intro cyclic
        cases ordered : order units with
        | error error =>
            exact ⟨error, rfl⟩
        | ok placed =>
            have run := run_of_order_eq_ok ordered
            exact ((run.stuck_ne_nil_iff selfContained).mpr cyclic rfl).elim
    · intro error failed
      obtain ⟨_, stuck, run, _, named⟩ := run_of_order_eq_error failed
      exact ⟨stuck, run.listsReaching selfContained, named⟩
  · intro model database namespaces units valid made
    have wellFormed := Model.validate_eq_ok_iff.mp valid
    exact selfContained_of_forall₂ wellFormed.tablesDistinct (Plan.unitOf_of_unitsOf made).1

/-- Two tables that refer to each other, one before them and one that refers to them. -/
def cyclicUnits : List (TableUnit Unit) :=
  let table (name : String) (targets : List String) : TableUnit Unit :=
    { id := .unqualified name
      body := ()
      dependencies := targets.map .unqualified
      joinTables := [] }
  [table "follower" ["left", "root"], table "root" ["root"], table "left" ["right"],
    table "right" ["left", "root"]]

/--
Two tables on a cycle and one that refers to them are named; the one that
stands alone is not.
-/
theorem order_error_iff_onCycle_cyclicUnits :
    (SelfContained cyclicUnits ∧
      order cyclicUnits = .error (.cyclicDependency ["follower", "left", "right"]) ∧
      ((∃ error, order cyclicUnits = .error error) ↔ ∃ id, OnCycle cyclicUnits id) ∧
      ∀ error, order cyclicUnits = .error error →
        ∃ stuck, ListsReaching cyclicUnits stuck ∧
          error = .cyclicDependency (stuck.map fun unit => unit.id.display)) ∧
      ∃ namespaces units,
        leagueModel.validate = .ok () ∧
          Plan.unitsOf leagueModel .mySQL [] leagueModel.entities = .ok (namespaces, units) ∧
          SelfContained units := by
  have selfContained : SelfContained cyclicUnits :=
    { distinct := by decide
      closed := by decide }
  refine ⟨⟨selfContained, by cbv, order_error_iff_onCycle.1 selfContained⟩, ?_⟩
  have valid : leagueModel.validate = .ok () := by decide +kernel
  have succeeds :
      (Plan.unitsOf leagueModel .mySQL [] leagueModel.entities).isOk = true := by
    decide +kernel
  cases made : Plan.unitsOf leagueModel .mySQL [] leagueModel.entities with
  | ok result =>
      obtain ⟨namespaces, units⟩ := result
      exact ⟨namespaces, units, valid, rfl, order_error_iff_onCycle.2 valid made⟩
  | error error =>
      rw [made] at succeeds
      cases succeeds

end SchemaScript.TableUnit
