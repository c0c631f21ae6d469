import Mathlib.Data.List.Forall2
import SchemaScript.Proofs.Outcome
import SchemaScript.Proofs.TableUnit.Order

/-!
# Stability of the order of tables

The order of tables follows from their identities, their references and the
order of their declaration alone, whatever else their units hold.  Tables that
refer to each other only keep their order when the others are left out.  Both
are shown for one step of the ordering and then along its runs.
-/

namespace SchemaScript.TableUnit

variable {Body Form : Type}

/-! ## Steps of the ordering -/

/-- A table that is taken comes first, and the others are put in order after it. -/
theorem orderAfter_of_taken
    {placed : List TableId}
    {pending rest : List (TableUnit Body)}
    {unit : TableUnit Body}
    (taken : takeFirst? (placeable placed) pending = some (unit, rest)) :
    orderAfter placed pending =
      orderAfter (unit.id :: placed) rest >>= fun ordered => .ok (unit :: ordered) := by
  cases pending with
  | nil =>
      cases taken
  | cons first later =>
      rw [orderAfter]
      split
      · next found others foundTaken =>
          rw [taken] at foundTaken
          cases foundTaken
          cases orderAfter (unit.id :: placed) rest <;> rfl
      · next notTaken =>
          rw [taken] at notTaken
          cases notTaken

/-- The ordering gets stuck with tables of which none can be taken. -/
theorem orderAfter_of_notTaken
    {placed : List TableId}
    {pending : List (TableUnit Body)}
    (left : pending ≠ [])
    (notTaken : takeFirst? (placeable placed) pending = none) :
    orderAfter placed pending =
      .error (.cyclicDependency (pending.map fun unit => unit.id.display)) := by
  cases pending with
  | nil =>
      exact (left rfl).elim
  | cons first later =>
      rw [orderAfter]
      split
      · next found others foundTaken =>
          rw [notTaken] at foundTaken
          cases foundTaken
      · rfl

/-- What holds at the end of a run and is kept from step to step back holds of every run. -/
theorem orderAfter_induction
    {holds : List TableId → List (TableUnit Body) → Prop}
    (done : ∀ placed, holds placed [])
    (stuck : ∀ placed pending, pending ≠ [] →
      takeFirst? (placeable placed) pending = none → holds placed pending)
    (step : ∀ placed pending unit rest,
      takeFirst? (placeable placed) pending = some (unit, rest) →
        holds (unit.id :: placed) rest → holds placed pending)
    (placed : List TableId)
    (pending : List (TableUnit Body)) :
    holds placed pending := by
  fun_induction orderAfter placed pending with
  | case1 placed =>
      exact done placed
  | case2 placed first later unit rest taken _ _ inductionHypothesis =>
      exact step placed _ unit rest taken inductionHypothesis
  | case3 placed first later unit rest taken _ _ inductionHypothesis =>
      exact step placed _ unit rest taken inductionHypothesis
  | case4 placed first later notTaken =>
      exact stuck placed _ (List.cons_ne_nil first later) notTaken

/-! ## Units of the same tables -/

/-- From lists of items that belong together, nothing is taken or items that belong together. -/
theorem takeFirst?_related
    {α β : Type}
    {relation : α → β → Prop}
    {test : α → Bool}
    {otherTest : β → Bool}
    (sameTest : ∀ item other, relation item other → otherTest other = test item)
    {items : List α}
    {others : List β}
    (related : List.Forall₂ relation items others) :
    (takeFirst? test items = none ∧ takeFirst? otherTest others = none) ∨
      ∃ item rest other otherRest,
        takeFirst? test items = some (item, rest) ∧
          takeFirst? otherTest others = some (other, otherRest) ∧
          relation item other ∧ List.Forall₂ relation rest otherRest := by
  induction related with
  | nil =>
      exact .inl ⟨rfl, rfl⟩
  | @cons first otherFirst later otherLater headRelated laterRelated inductionHypothesis =>
      simp only [takeFirst?, sameTest first otherFirst headRelated]
      by_cases passes : test first
      · simp only [passes, if_true]
        exact .inr ⟨first, later, otherFirst, otherLater, rfl, rfl, headRelated, laterRelated⟩
      · simp only [passes, Bool.false_eq_true, if_false]
        rcases inductionHypothesis with
          ⟨notTaken, otherNotTaken⟩ |
            ⟨item, rest, other, otherRest, taken, otherTaken, itemRelated, restRelated⟩
        · rw [notTaken, otherNotTaken]
          exact .inl ⟨rfl, rfl⟩
        · rw [taken, otherTaken]
          exact
            .inr
              ⟨item, first :: rest, other, otherFirst :: otherRest, rfl, rfl, itemRelated,
                .cons headRelated restRelated⟩

/-- Units of the same tables with the same references are put in order alike. -/
theorem agree_orderAfter
    {relation : TableUnit Body → TableUnit Form → Prop}
    (sameTables : ∀ unit other, relation unit other →
      other.id = unit.id ∧ other.dependencies = unit.dependencies)
    (placed : List TableId)
    (units : List (TableUnit Body))
    {others : List (TableUnit Form)}
    (related : List.Forall₂ relation units others) :
    Agree (List.Forall₂ relation) (orderAfter placed units) (orderAfter placed others) := by
  have sameTest
      (placed : List TableId)
      (unit : TableUnit Body)
      (other : TableUnit Form)
      (unitRelated : relation unit other) :
      placeable placed other = placeable placed unit := by
    obtain ⟨sameId, sameDependencies⟩ := sameTables unit other unitRelated
    rw [placeable, placeable, sameId, sameDependencies]
  induction placed, units using orderAfter_induction generalizing others with
  | done placed =>
      cases related
      rw [orderAfter, orderAfter]
      exact .results .nil
  | stuck placed pending left notTaken =>
      rcases takeFirst?_related (sameTest placed) related with
        ⟨_, otherNotTaken⟩ | ⟨_, _, _, _, taken, _⟩
      · have otherLeft : others ≠ [] := by
          rintro rfl
          exact left (List.forall₂_nil_right_iff.mp related)
        have sameNames :
            others.map (fun unit => unit.id.display) =
              pending.map fun unit => unit.id.display :=
          map_eq_of_forall₂ related fun unit other unitRelated => by
            rw [(sameTables unit other unitRelated).1]
        rw [orderAfter_of_notTaken left notTaken,
          orderAfter_of_notTaken otherLeft otherNotTaken, sameNames]
        exact .errors _
      · rw [notTaken] at taken
        cases taken
  | step placed pending unit rest taken inductionHypothesis =>
      rcases takeFirst?_related (sameTest placed) related with
        ⟨notTaken, _⟩ |
          ⟨_, _, other, otherRest, sameTaken, otherTaken, unitRelated, restRelated⟩
      · rw [taken] at notTaken
        cases notTaken
      · rw [taken] at sameTaken
        cases sameTaken
        rw [orderAfter_of_taken taken, orderAfter_of_taken otherTaken,
          (sameTables unit other unitRelated).1]
        refine .bind (inductionHypothesis restRelated) ?_
        intro ordered otherOrdered orderedRelated
        exact .results (.cons unitRelated orderedRelated)

/-- Units of the same tables with the same references are put in the same order. -/
theorem agree_order
    {relation : TableUnit Body → TableUnit Form → Prop}
    (sameTables : ∀ unit other, relation unit other →
      other.id = unit.id ∧ other.dependencies = unit.dependencies)
    {units : List (TableUnit Body)}
    {others : List (TableUnit Form)}
    (related : List.Forall₂ relation units others) :
    Agree (List.Forall₂ relation) (order units) (order others) :=
  agree_orderAfter sameTables [] units related

/-! ## Tables that are left out -/

/-- The first item that passes is taken from between those before and after it. -/
theorem takeFirst?_append
    {α : Type}
    {test : α → Bool}
    {earlier later : List α}
    {item : α}
    (passes : test item = true)
    (fail : ∀ other ∈ earlier, test other = false) :
    takeFirst? test (earlier ++ item :: later) = some (item, earlier ++ later) := by
  induction earlier with
  | nil =>
      simp [takeFirst?, passes]
  | cons first others inductionHypothesis =>
      obtain ⟨firstFails, othersFail⟩ := List.forall_mem_cons.mp fail
      simp [takeFirst?, firstFails, inductionHypothesis othersFail]

/-- Tables that are kept can be created as before when all that they refer to is kept. -/
theorem placeable_filter
    {kept : TableId → Bool}
    {placed : List TableId}
    {unit : TableUnit Body}
    (closed : ∀ target ∈ unit.dependencies, kept target = true) :
    placeable (placed.filter kept) unit = placeable placed unit := by
  rw [Bool.eq_iff_iff, placeable_iff, placeable_iff]
  refine forall₂_congr fun target refers => or_congr_right ?_
  simp [List.mem_filter, closed target refers]

/--
Tables that refer to each other only are put in the same order without the
other tables as among them.
-/
theorem orderAfter_filter
    {kept : TableId → Bool}
    (placed : List TableId)
    (pending : List (TableUnit Body))
    {ordered : List (TableUnit Body)}
    (closed : ∀ unit ∈ pending, kept unit.id = true →
      ∀ target ∈ unit.dependencies, kept target = true)
    (succeeded : orderAfter placed pending = .ok ordered) :
    orderAfter (placed.filter kept) (pending.filter fun unit => kept unit.id) =
      .ok (ordered.filter fun unit => kept unit.id) := by
  induction placed, pending using orderAfter_induction generalizing ordered with
  | done placed =>
      rw [orderAfter] at succeeded
      cases succeeded
      rw [List.filter_nil, orderAfter]
  | stuck placed pending left notTaken =>
      rw [orderAfter_of_notTaken left notTaken] at succeeded
      cases succeeded
  | step placed pending unit rest taken inductionHypothesis =>
      rw [orderAfter_of_taken taken, bind_eq_ok_iff] at succeeded
      obtain ⟨orderedLater, laterSucceeded, same⟩ := succeeded
      cases same
      obtain ⟨passes, earlier, later, rfl, rfl, fail⟩ := eq_of_takeFirst? taken
      have laterClosed :
          ∀ other ∈ earlier ++ later, kept other.id = true →
            ∀ target ∈ other.dependencies, kept target = true := by
        intro other member
        apply closed other
        simp only [List.mem_append, List.mem_cons] at member ⊢
        exact member.imp_right .inr
      have laterOrdered := inductionHypothesis laterClosed laterSucceeded
      by_cases unitKept : kept unit.id = true
      · have unitClosed := closed unit (by simp) unitKept
        have keptTaken :
            takeFirst? (placeable (placed.filter kept))
                ((earlier ++ unit :: later).filter fun unit => kept unit.id) =
              some (unit, (earlier ++ later).filter fun unit => kept unit.id) := by
          simp only [List.filter_append, List.filter_cons, unitKept, if_true]
          apply takeFirst?_append
          · rw [placeable_filter unitClosed]
            exact passes
          · intro other member
            obtain ⟨declared, otherKept⟩ := List.mem_filter.mp member
            rw [placeable_filter (closed other (List.mem_append_left _ declared) otherKept)]
            exact fail other declared
        simp only [List.filter_cons, unitKept, if_true] at laterOrdered ⊢
        rw [orderAfter_of_taken keptTaken, laterOrdered, ok_bind]
      · simp only [List.filter_append, List.filter_cons, unitKept, Bool.false_eq_true,
          if_false] at laterOrdered ⊢
        exact laterOrdered

/-- Leaving tables out that no other table refers to keeps the order of the others. -/
theorem order_filter
    {kept : TableId → Bool}
    {units ordered : List (TableUnit Body)}
    (closed : ∀ unit ∈ units, kept unit.id = true →
      ∀ target ∈ unit.dependencies, kept target = true)
    (succeeded : order units = .ok ordered) :
    order (units.filter fun unit => kept unit.id) =
      .ok (ordered.filter fun unit => kept unit.id) :=
  orderAfter_filter [] units closed succeeded

end SchemaScript.TableUnit
