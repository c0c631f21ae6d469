import Mathlib.Data.List.FinRange
import SchemaScript.Proofs.TableUnit.Stability

/-!
# The least order of tables

Tables are put in an order in which each refers to earlier ones and to itself
only, if there is one.  Placing a table as soon as that is possible never keeps
another one from its place, so that the ordering gets stuck only when there is
no such order at all.  As it always places the first table that it can, the
order keeps to that of the declaration as far as possible: among all such
orders, the positions of its tables come first when they are compared one by
one.  Tables may occur repeatedly, and may refer to tables that are absent.
-/

namespace SchemaScript.TableUnit

variable {Body : Type}

/-! ## Tables that refer back -/

/-- Each table refers to itself and to tables before it only. -/
def RefersBack (units : List (TableUnit Body)) : Prop :=
  ∀ earlier unit later, units = earlier ++ unit :: later →
    ∀ target ∈ unit.dependencies, target = unit.id ∨ target ∈ earlier.map (·.id)

/-- Tables can be created one after another when they refer to tables before them only. -/
theorem creatable_iff
    {placed : List TableId}
    {units : List (TableUnit Body)} :
    Creatable placed units ↔
      ∀ earlier unit later, units = earlier ++ unit :: later →
        ∀ target ∈ unit.dependencies,
          target = unit.id ∨ target ∈ earlier.map (·.id) ∨ target ∈ placed := by
  induction units generalizing placed with
  | nil =>
      simp [Creatable]
  | cons first others inductionHypothesis =>
      simp only [Creatable, inductionHypothesis]
      constructor
      · rintro ⟨firstCreatable, othersCreatable⟩ earlier unit later same target refers
        cases earlier with
        | nil =>
            cases same
            exact (firstCreatable target refers).imp_right .inr
        | cons other earlier =>
            cases same
            have found := othersCreatable earlier unit later rfl target refers
            simpa only [List.map_cons, List.mem_cons, or_assoc, or_left_comm] using found
      · intro creatable
        constructor
        · intro target refers
          simpa using creatable [] first others rfl target refers
        · rintro earlier unit later rfl target refers
          have found := creatable (first :: earlier) unit later rfl target refers
          simpa only [List.map_cons, List.mem_cons, or_assoc, or_left_comm] using found

/-- Units refer back exactly when they can be created from nothing. -/
theorem refersBack_iff
    {units : List (TableUnit Body)} :
    RefersBack units ↔ Creatable [] units := by
  simp [RefersBack, creatable_iff]

instance decidableCreatable
    (placed : List TableId) :
    (units : List (TableUnit Body)) → Decidable (Creatable placed units)
  | [] => .isTrue trivial
  | unit :: later =>
      have := decidableCreatable (unit.id :: placed) later
      inferInstanceAs (Decidable (_ ∧ _))

instance
    (units : List (TableUnit Body)) :
    Decidable (RefersBack units) :=
  decidable_of_iff _ refersBack_iff.symm

/-! ## Orders in which all tables can be created -/

/-- The first table of such an order can be placed at once. -/
theorem Creatable.placeable_first
    {placed : List TableId}
    {unit : TableUnit Body}
    {others : List (TableUnit Body)}
    (creatable : Creatable placed (unit :: others)) :
    placeable placed unit = true :=
  placeable_iff.mpr creatable.1

/-- What can be created after some tables can be created after more of them. -/
theorem Creatable.mono
    {placed others : List TableId}
    {units : List (TableUnit Body)}
    (creatable : Creatable placed units)
    (included : placed ⊆ others) :
    Creatable others units := by
  rw [creatable_iff] at creatable ⊢
  intro earlier unit later same target refers
  exact (creatable earlier unit later same target refers).imp_right (.imp_right (@included target))

/-- A table that is placed at once may be left out of a later place. -/
theorem Creatable.placeAtOnce
    {placed : List TableId}
    {earlier later : List (TableUnit Body)}
    {unit : TableUnit Body}
    (creatable : Creatable placed (earlier ++ unit :: later)) :
    Creatable (unit.id :: placed) (earlier ++ later) := by
  induction earlier generalizing placed with
  | nil =>
      exact creatable.2
  | cons first others inductionHypothesis =>
      obtain ⟨firstCreatable, othersCreatable⟩ := creatable
      constructor
      · intro target refers
        exact (firstCreatable target refers).imp_right (List.mem_cons_of_mem unit.id)
      · apply (inductionHypothesis othersCreatable).mono
        exact (List.Perm.swap _ _ placed).subset

/-- If the tables can be created in some order, the ordering does not get stuck. -/
theorem exists_orderAfter_of_creatable
    {placed : List TableId}
    {pending arranged : List (TableUnit Body)}
    (complete : arranged.Perm pending)
    (creatable : Creatable placed arranged) :
    ∃ ordered, orderAfter placed pending = .ok ordered := by
  induction placed, pending using orderAfter_induction generalizing arranged with
  | done placed =>
      exact ⟨[], by rw [orderAfter]⟩
  | stuck placed pending left notTaken =>
      cases arranged with
      | nil =>
          exact (left complete.nil_eq.symm).elim
      | cons first others =>
          have declared : first ∈ pending := complete.subset List.mem_cons_self
          have notPlaceable := takeFirst?_eq_none_iff.mp notTaken first declared
          rw [creatable.placeable_first] at notPlaceable
          cases notPlaceable
  | step placed pending unit rest taken inductionHypothesis =>
      obtain ⟨_, before, after, rfl, rfl, _⟩ := eq_of_takeFirst? taken
      have arrangedUnit : unit ∈ arranged := complete.mem_iff.mpr (by simp)
      obtain ⟨earlier, later, rfl⟩ := List.append_of_mem arrangedUnit
      have others : (earlier ++ later).Perm (before ++ after) :=
        ((List.perm_middle.symm.trans complete).trans List.perm_middle).cons_inv
      obtain ⟨ordered, succeeded⟩ := inductionHypothesis others creatable.placeAtOnce
      exact ⟨unit :: ordered, by rw [orderAfter_of_taken taken, succeeded, ok_bind]⟩

/-- Tables that can be created in the order of their declaration keep it. -/
theorem orderAfter_of_creatable
    {placed : List TableId}
    {units : List (TableUnit Body)}
    (creatable : Creatable placed units) :
    orderAfter placed units = .ok units := by
  induction units generalizing placed with
  | nil =>
      rw [orderAfter]
  | cons first others inductionHypothesis =>
      have taken : takeFirst? (placeable placed) (first :: others) = some (first, others) := by
        simp [takeFirst?, creatable.placeable_first]
      rw [orderAfter_of_taken taken, inductionHypothesis creatable.2, ok_bind]

/-! ## Positions -/

section Positions

variable {Position : Type} {unitAt : Position → TableUnit Body} {placed : List TableId}

/-- Where earlier tables cannot be placed yet, no order begins before the first that can. -/
theorem Creatable.eq_or_mem_later
    {position first : Position}
    {earlier later others : List Position}
    (earlierFail : ∀ unit ∈ earlier.map unitAt, placeable placed unit = false)
    (creatable : Creatable placed ((first :: others).map unitAt))
    (declared : first ∈ earlier ++ position :: later) :
    first = position ∨ first ∈ later := by
  have notEarlier : first ∉ earlier := by
    intro member
    have fails := earlierFail (unitAt first) (List.mem_map_of_mem member)
    rw [creatable.placeable_first] at fails
    cases fails
  exact List.mem_cons.mp ((List.mem_append.mp declared).resolve_left notEarlier)

/--
Where tables stand at ascending positions, those that the ordering places in
turn have the least positions of all orders in which they can be created.
-/
theorem exists_least_of_orderAfter
    [LinearOrder Position]
    {positions : List Position}
    (ascending : positions.Pairwise (· < ·))
    {ordered : List (TableUnit Body)}
    (succeeded : orderAfter placed (positions.map unitAt) = .ok ordered) :
    ∃ least : List Position, least.Perm positions ∧ least.map unitAt = ordered ∧
      ∀ other : List Position, other.Perm positions → Creatable placed (other.map unitAt) →
        least = other ∨ List.Lex (· < ·) least other := by
  generalize located : positions.map unitAt = pending at succeeded
  induction placed, pending using orderAfter_induction generalizing positions ordered with
  | done placed =>
      rw [orderAfter] at succeeded
      cases succeeded
      rw [List.map_eq_nil_iff] at located
      subst located
      refine ⟨[], .refl [], rfl, ?_⟩
      intro other otherComplete _
      exact .inl otherComplete.eq_nil.symm
  | stuck placed pending left notTaken =>
      rw [orderAfter_of_notTaken left notTaken] at succeeded
      cases succeeded
  | step placed pending unit rest taken inductionHypothesis =>
      rw [orderAfter_of_taken taken, bind_eq_ok_iff] at succeeded
      obtain ⟨orderedLater, laterSucceeded, same⟩ := succeeded
      cases same
      obtain ⟨_, earlierUnits, laterUnits, rfl, rfl, earlierFail⟩ := eq_of_takeFirst? taken
      obtain ⟨earlier, _, rfl, rfl, atRest⟩ := List.map_eq_append_iff.mp located
      obtain ⟨position, later, rfl, rfl, rfl⟩ := List.map_eq_cons_iff.mp atRest
      obtain ⟨_, restAscending, _⟩ := List.pairwise_append.mp ascending
      have othersAscending : (earlier ++ later).Pairwise (· < ·) :=
        ascending.sublist ((List.sublist_cons_self position later).append_left earlier)
      obtain ⟨least, complete, rfl, isLeast⟩ :=
        inductionHypothesis othersAscending List.map_append laterSucceeded
      refine ⟨position :: least, (complete.cons position).trans List.perm_middle.symm, rfl, ?_⟩
      intro other otherComplete creatable
      cases other with
      | nil =>
          exact absurd otherComplete.nil_eq (by simp)
      | cons first others =>
          have declared : first ∈ earlier ++ position :: later :=
            otherComplete.subset List.mem_cons_self
          rcases creatable.eq_or_mem_later earlierFail declared with isPlaced | isLater
          · subst isPlaced
            have othersComplete : others.Perm (earlier ++ later) :=
              (otherComplete.trans List.perm_middle).cons_inv
            rcases isLeast others othersComplete creatable.2 with same | before
            · exact .inl (congrArg (first :: ·) same)
            · exact .inr (.cons before)
          · exact .inr (.rel (List.rel_of_pairwise_cons restAscending isLater))

end Positions

/-- All positions of a list, each once, in an order in which the tables there refer back only. -/
structure Arranges (units : List (TableUnit Body)) (positions : List (Fin units.length)) :
    Prop where
  complete : positions.Perm (List.finRange units.length)
  refersBack : RefersBack (positions.map units.get)

/-! ## Ordering -/

/-- An order that succeeds is the least one. -/
theorem exists_least_of_order
    {units ordered : List (TableUnit Body)}
    (succeeded : order units = .ok ordered) :
    ∃ least, Arranges units least ∧ least.map units.get = ordered ∧
      ∀ other, Arranges units other → least = other ∨ List.Lex (· < ·) least other := by
  have creatable := (run_of_order_eq_ok succeeded).creatable
  have located :
      orderAfter [] ((List.finRange units.length).map units.get) = .ok ordered := by
    rw [List.map_get_finRange]
    exact succeeded
  obtain ⟨least, complete, rfl, isLeast⟩ :=
    exists_least_of_orderAfter (List.pairwise_lt_finRange units.length) located
  refine ⟨least, ⟨complete, refersBack_iff.mpr creatable⟩, rfl, ?_⟩
  intro other arranges
  exact isLeast other arranges.complete (refersBack_iff.mp arranges.refersBack)

/-- Tables that refer back in some order are put in order. -/
theorem Arranges.exists_order
    {units : List (TableUnit Body)}
    {positions : List (Fin units.length)}
    (arranges : Arranges units positions) :
    ∃ ordered, order units = .ok ordered := by
  have complete := arranges.complete.map units.get
  rw [List.map_get_finRange] at complete
  exact exists_orderAfter_of_creatable complete (refersBack_iff.mp arranges.refersBack)

/--
Tables are put in the least order in which they refer back only, and the
ordering fails exactly when there is none.  Tables that refer back as they are
declared stay as they are.
-/
theorem order_least
    (units : List (TableUnit Body)) :
    (∀ arranged, Arranges units arranged →
      ∃ least, Arranges units least ∧ order units = .ok (least.map units.get) ∧
        ∀ other, Arranges units other → least = other ∨ List.Lex (· < ·) least other) ∧
      ((¬ ∃ arranged, Arranges units arranged) → ∃ error, order units = .error error) ∧
      (RefersBack units → order units = .ok units) := by
  refine ⟨?_, ?_, fun refersBack => orderAfter_of_creatable (refersBack_iff.mp refersBack)⟩
  · intro arranged arranges
    obtain ⟨ordered, succeeded⟩ := arranges.exists_order
    obtain ⟨least, leastArranges, rfl, isLeast⟩ := exists_least_of_order succeeded
    exact ⟨least, leastArranges, succeeded, isLeast⟩
  · intro notArranged
    cases ordered : order units with
    | ok placed =>
        obtain ⟨least, arranges, _⟩ := exists_least_of_order ordered
        exact (notArranged ⟨least, arranges⟩).elim
    | error error =>
        exact ⟨error, rfl⟩

/-- A table before the one that it refers to, which is declared twice and refers to itself. -/
def repeatedUnits : List (TableUnit Unit) :=
  let table (name : String) (targets : List String) : TableUnit Unit :=
    { id := .unqualified name
      body := ()
      dependencies := targets.map .unqualified
      joinTables := [] }
  [table "event" ["reporter", "tournament"], table "tournament" ["tournament"],
    table "team" ["event"], table "tournament" [], table "reporter" []]

/-- Five tables, two of which have one id, are ordered as the least arrangement says. -/
theorem order_least_repeatedUnits :
    Arranges repeatedUnits ([3, 4, 1, 0, 2] : List (Fin 5)) ∧
      order repeatedUnits = .ok (([1, 3, 4, 0, 2] : List (Fin 5)).map repeatedUnits.get) ∧
      ∃ least, Arranges repeatedUnits least ∧
        order repeatedUnits = .ok (least.map repeatedUnits.get) ∧
        ∀ other, Arranges repeatedUnits other →
          least = other ∨ List.Lex (· < ·) least other := by
  have arranges : Arranges repeatedUnits ([3, 4, 1, 0, 2] : List (Fin 5)) :=
    { complete := List.isPerm_iff.mp rfl
      refersBack := by decide }
  exact ⟨arranges, by cbv, (order_least repeatedUnits).1 _ arranges⟩

end SchemaScript.TableUnit
