import Mathlib.Data.List.Perm.Basic
import Mathlib.Data.List.Nodup
import SchemaScript.TableUnit.Order

namespace SchemaScript.TableUnit

/-!
# Runs of the ordering of tables

A run takes tables one after another, each of which can be created when its
turn comes, until nothing is left or nothing that is left can be created.  One
step of it is stated for itself; the whole run follows by induction on what is
pending.
-/

variable {Body : Type}

/-! ## Taking the first item that passes a test -/

/-- Nothing is taken exactly when no item passes. -/
theorem takeFirst?_eq_none_iff
    {α : Type}
    {test : α → Bool}
    {items : List α} :
    takeFirst? test items = none ↔ ∀ item ∈ items, test item = false := by
  induction items with
  | nil =>
      simp [takeFirst?]
  | cons first later inductionHypothesis =>
      by_cases passes : test first
      · simp [takeFirst?, passes]
      · cases taken : takeFirst? test later with
        | none =>
            simpa [takeFirst?, passes, taken] using inductionHypothesis.mp taken
        | some result =>
            have notAll : ¬ ∀ item ∈ later, test item = false := by
              rw [← inductionHypothesis, taken]
              exact Option.some_ne_none result
            simp only [takeFirst?, passes, Bool.false_eq_true, if_false, taken, reduceCtorEq,
              List.mem_cons, forall_eq_or_imp, false_iff, not_and]
            exact fun _ => notAll

/-- An item that is taken passes, none before it does, and the others keep their order. -/
theorem eq_of_takeFirst?
    {α : Type}
    {test : α → Bool}
    {items rest : List α}
    {found : α}
    (taken : takeFirst? test items = some (found, rest)) :
    test found = true ∧
      ∃ earlier later, items = earlier ++ found :: later ∧ rest = earlier ++ later ∧
        ∀ item ∈ earlier, test item = false := by
  induction items generalizing rest with
  | nil =>
      cases taken
  | cons first others inductionHypothesis =>
      by_cases passes : test first
      · simp only [takeFirst?, passes, if_true, Option.some.injEq, Prod.mk.injEq] at taken
        obtain ⟨rfl, rfl⟩ := taken
        exact ⟨passes, [], others, rfl, rfl, by simp⟩
      · cases takenLater : takeFirst? test others with
        | none =>
            simp [takeFirst?, passes, takenLater] at taken
        | some result =>
            obtain ⟨item, tail⟩ := result
            simp only [takeFirst?, passes, Bool.false_eq_true, if_false, takenLater,
              Option.some.injEq, Prod.mk.injEq] at taken
            obtain ⟨rfl, rfl⟩ := taken
            obtain ⟨itemPasses, earlier, later, rfl, rfl, fail⟩ := inductionHypothesis takenLater
            refine ⟨itemPasses, first :: earlier, later, rfl, rfl, ?_⟩
            rintro each (_ | ⟨_, member⟩)
            · simpa using passes
            · exact fail each member

/-! ## Runs -/

/-- A table can be created exactly when it refers to itself and to created tables only. -/
theorem placeable_iff
    {placed : List TableId}
    {unit : TableUnit Body} :
    placeable placed unit = true ↔
      ∀ target ∈ unit.dependencies, target = unit.id ∨ target ∈ placed := by
  simp [placeable]

/-- Every table can be created when its turn comes after the tables in `placed`. -/
def Creatable (placed : List TableId) : List (TableUnit Body) → Prop
  | [] => True
  | unit :: later =>
      (∀ target ∈ unit.dependencies, target = unit.id ∨ target ∈ placed) ∧
        Creatable (unit.id :: placed) later

/--
A run places the tables in `ordered` after those in `placed` and gets stuck
with those in `stuck`.
-/
structure Run (placed : List TableId) (pending ordered stuck : List (TableUnit Body)) :
    Prop where
  complete : (ordered ++ stuck).Perm pending
  declarationOrder : stuck.Sublist pending
  creatable : Creatable placed ordered
  blocked :
    ∀ unit ∈ stuck, ∃ target ∈ unit.dependencies,
      target ≠ unit.id ∧ target ∉ placed ∧ target ∉ ordered.map (·.id)

namespace Run

/-- A run that cannot place anything is stuck with everything. -/
theorem stop
    {placed : List TableId}
    {pending : List (TableUnit Body)}
    (notTaken : takeFirst? (placeable placed) pending = none) :
    Run placed pending [] pending where
  complete := .refl pending
  declarationOrder := .refl pending
  creatable := trivial
  blocked := by
    intro unit member
    have notPlaceable := takeFirst?_eq_none_iff.mp notTaken unit member
    rw [← Bool.not_eq_true, placeable_iff] at notPlaceable
    push Not at notPlaceable
    obtain ⟨target, refers, other, absent⟩ := notPlaceable
    exact ⟨target, refers, other, absent, by simp⟩

/-- A step of a run places the first table that can be created. -/
theorem step
    {placed : List TableId}
    {pending rest ordered stuck : List (TableUnit Body)}
    {unit : TableUnit Body}
    (taken : takeFirst? (placeable placed) pending = some (unit, rest))
    (run : Run (unit.id :: placed) rest ordered stuck) :
    Run placed pending (unit :: ordered) stuck := by
  obtain ⟨canPlace, earlier, later, rfl, rfl, _⟩ := eq_of_takeFirst? taken
  refine {
    complete := ?_
    declarationOrder := ?_
    creatable := ⟨placeable_iff.mp canPlace, run.creatable⟩
    blocked := ?_ }
  · exact (run.complete.cons unit).trans List.perm_middle.symm
  · exact run.declarationOrder.trans
      ((List.sublist_cons_self unit later).append_left earlier)
  · intro stuckUnit member
    obtain ⟨target, refers, other, notPlaced, notOrdered⟩ := run.blocked stuckUnit member
    simp only [List.mem_cons, not_or] at notPlaced
    refine ⟨target, refers, other, notPlaced.2, ?_⟩
    simp only [List.map_cons, List.mem_cons, not_or]
    exact ⟨notPlaced.1, notOrdered⟩

end Run

/-- Ordering is a run, and it fails exactly when the run gets stuck. -/
theorem orderAfter_run
    (placed : List TableId)
    (pending : List (TableUnit Body)) :
    ∃ ordered stuck, Run placed pending ordered stuck ∧
      orderAfter placed pending =
        if stuck = [] then
          .ok ordered
        else
          .error (.cyclicDependency (stuck.map fun unit => unit.id.display)) := by
  fun_induction orderAfter placed pending with
  | case1 placed =>
      exact ⟨[], [], .stop rfl, by simp⟩
  | case2 placed first later unit rest taken ordered succeeded inductionHypothesis =>
      obtain ⟨orderedLater, stuck, run, outcome⟩ := inductionHypothesis
      rw [succeeded] at outcome
      refine ⟨unit :: orderedLater, stuck, run.step taken, ?_⟩
      split at outcome
      · next nothingStuck =>
          cases outcome
          simp [nothingStuck]
      · cases outcome
  | case3 placed first later unit rest taken error failed inductionHypothesis =>
      obtain ⟨orderedLater, stuck, run, outcome⟩ := inductionHypothesis
      rw [failed] at outcome
      refine ⟨unit :: orderedLater, stuck, run.step taken, ?_⟩
      split at outcome
      · cases outcome
      · next someStuck =>
          cases outcome
          simp [someStuck]
  | case4 placed first later notTaken =>
      exact ⟨[], first :: later, .stop notTaken, by simp⟩

/-- A successful ordering places every table. -/
theorem run_of_order_eq_ok
    {units ordered : List (TableUnit Body)}
    (succeeded : order units = .ok ordered) :
    Run [] units ordered [] := by
  obtain ⟨placedUnits, stuck, run, outcome⟩ := orderAfter_run [] units
  rw [order, outcome] at succeeded
  split at succeeded
  · next nothingStuck =>
      cases succeeded
      rwa [nothingStuck] at run
  · cases succeeded

/-- A failed ordering is stuck, and names the tables that it is stuck with. -/
theorem run_of_order_eq_error
    {units : List (TableUnit Body)}
    {error : SchemaError}
    (failed : order units = .error error) :
    ∃ ordered stuck, Run [] units ordered stuck ∧ stuck ≠ [] ∧
      error = .cyclicDependency (stuck.map fun unit => unit.id.display) := by
  obtain ⟨ordered, stuck, run, outcome⟩ := orderAfter_run [] units
  rw [order, outcome] at failed
  split at failed
  · cases failed
  · next someStuck =>
      cases failed
      exact ⟨ordered, stuck, run, someStuck, rfl⟩

/-! ## Lists of tables that refer to each other only -/

/-- Tables that are distinct and refer to each other only. -/
structure SelfContained (units : List (TableUnit Body)) : Prop where
  distinct : (units.map (·.id)).Nodup
  closed : ∀ unit ∈ units, ∀ target ∈ unit.dependencies, ∃ other ∈ units, other.id = target

/-- Units of distinct tables are the same when their tables are. -/
theorem SelfContained.eq_of_id_eq
    {units : List (TableUnit Body)}
    (selfContained : SelfContained units)
    {first second : TableUnit Body}
    (firstMember : first ∈ units)
    (secondMember : second ∈ units)
    (sameId : first.id = second.id) :
    first = second :=
  List.inj_on_of_nodup_map selfContained.distinct firstMember secondMember sameId

end SchemaScript.TableUnit
