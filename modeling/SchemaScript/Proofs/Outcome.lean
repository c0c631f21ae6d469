import Mathlib.Data.List.Forall2
import SchemaScript.Error

namespace SchemaScript

/-!
# Outcomes of steps that can fail

What the success of a combined step says about its parts: a sequence succeeds
when each of its parts does, a check of a list when it passes for every item,
and a collection when its results belong to the items one by one.  What fails
does so for a cause of one of its parts.  Two computations agree when their
parts do.
-/

/-- A first step with a result hands it to the next one. -/
@[simp] theorem ok_bind
    {α β : Type}
    {value : α}
    {next : α → Except SchemaError β} :
    ((Except.ok value : Except SchemaError α) >>= next) = next value :=
  rfl

/-- A sequence of two steps succeeds exactly when both do. -/
theorem bind_eq_ok_iff
    {α β : Type}
    {first : Except SchemaError α}
    {next : α → Except SchemaError β}
    {result : β} :
    (first >>= next) = .ok result ↔
      ∃ value, first = .ok value ∧ next value = .ok result := by
  cases first with
  | ok value =>
      constructor
      · intro succeeded
        exact ⟨value, rfl, succeeded⟩
      · rintro ⟨other, same, succeeded⟩
        cases same
        exact succeeded
  | error error =>
      constructor
      · intro succeeded
        cases succeeded
      · rintro ⟨other, same, _⟩
        cases same

/-- An outcome that succeeds has a result. -/
theorem exists_of_isOk
    {α : Type}
    {outcome : Except SchemaError α}
    (succeeds : outcome.isOk = true) :
    ∃ result, outcome = .ok result := by
  cases outcome with
  | ok result =>
      exact ⟨result, rfl⟩
  | error error =>
      cases succeeds

/-- What is required passes exactly when it holds. -/
theorem require_eq_ok_iff
    {condition : Bool}
    {error : SchemaError}
    {outcome : Unit} :
    require condition error = .ok outcome ↔ condition = true := by
  cases condition <;> simp [require]

/-- A check of a list passes exactly when it passes for every item. -/
theorem checkAll_eq_ok_iff
    {α : Type}
    {check : α → Except SchemaError Unit}
    {items : List α}
    {outcome : Unit} :
    checkAll check items = .ok outcome ↔
      ∀ item ∈ items, check item = .ok () := by
  induction items with
  | nil =>
      simp [checkAll]
  | cons item later inductionHypothesis =>
      cases checked : check item with
      | ok passed =>
          simp [checkAll, checked, inductionHypothesis]
      | error error =>
          simp [checkAll, checked]

/-- Collected results belong to the items of the list, one by one. -/
theorem collect_eq_ok_iff
    {α β : Type}
    {step : α → Except SchemaError β}
    {items : List α}
    {results : List β} :
    collect step items = .ok results ↔
      List.Forall₂ (fun item result => step item = .ok result) items results := by
  induction items generalizing results with
  | nil =>
      cases results <;> simp [collect]
  | cons item later inductionHypothesis =>
      cases stepped : step item with
      | error error =>
          simp [collect, stepped, List.forall₂_cons_left_iff]
      | ok result =>
          cases collected : collect step later with
          | error error =>
              simp [collect, stepped, collected, List.forall₂_cons_left_iff,
                ← inductionHypothesis]
          | ok rest =>
              simp only [collect, stepped, collected, Except.ok.injEq,
                List.forall₂_cons_left_iff, ← inductionHypothesis]
              constructor
              · intro same
                exact ⟨result, rest, rfl, rfl, same.symm⟩
              · rintro ⟨_, _, rfl, rfl, rfl⟩
                rfl

/-- Collections are the same when the steps on their items are, one by one. -/
theorem collect_eq_of_forall₂
    {α β γ : Type}
    {step : α → Except SchemaError γ}
    {otherStep : β → Except SchemaError γ}
    {items : List α}
    {others : List β}
    (same : List.Forall₂ (fun item other => otherStep other = step item) items others) :
    collect otherStep others = collect step items := by
  induction same with
  | nil =>
      rfl
  | cons headSame _ inductionHypothesis =>
      simp only [collect, headSame, inductionHypothesis]

/-- Items and results that belong together occur together. -/
theorem exists_left_of_forall₂
    {α β : Type}
    {relation : α → β → Prop}
    {items : List α}
    {results : List β}
    (related : List.Forall₂ relation items results)
    {result : β}
    (member : result ∈ results) :
    ∃ item ∈ items, relation item result := by
  induction related with
  | nil =>
      cases member
  | @cons item first later rest headRelated _ inductionHypothesis =>
      rcases List.mem_cons.mp member with isFirst | inRest
      · subst isFirst
        exact ⟨item, List.mem_cons_self, headRelated⟩
      · obtain ⟨found, foundMember, foundRelated⟩ := inductionHypothesis inRest
        exact ⟨found, List.mem_cons_of_mem item foundMember, foundRelated⟩

/-- Every item has a result that belongs to it. -/
theorem exists_right_of_forall₂
    {α β : Type}
    {relation : α → β → Prop}
    {items : List α}
    {results : List β}
    (related : List.Forall₂ relation items results)
    {item : α}
    (member : item ∈ items) :
    ∃ result ∈ results, relation item result :=
  exists_left_of_forall₂ related.flip member

/-- What belongs to the same items belongs together. -/
theorem forall₂_of_common
    {α β γ : Type}
    {relation : α → β → Prop}
    {otherRelation : α → γ → Prop}
    {together : β → γ → Prop}
    {items : List α}
    {results : List β}
    {others : List γ}
    (related : List.Forall₂ relation items results)
    (otherRelated : List.Forall₂ otherRelation items others)
    (join : ∀ item ∈ items, ∀ result other,
      relation item result → otherRelation item other → together result other) :
    List.Forall₂ together results others := by
  induction related generalizing others with
  | nil =>
      cases otherRelated
      exact .nil
  | @cons item result later rest headRelated _ inductionHypothesis =>
      obtain ⟨other, otherRest, otherHead, otherLater, rfl⟩ :=
        List.forall₂_cons_left_iff.mp otherRelated
      refine
        .cons (join item List.mem_cons_self result other headRelated otherHead)
          (inductionHypothesis otherLater ?_)
      exact fun each member => join each (List.mem_cons_of_mem item member)

/-- Results are found for a list when they are found for every item. -/
theorem exists_forall₂
    {α β : Type}
    {relation : α → β → Prop}
    {items : List α}
    (found : ∀ item ∈ items, ∃ result, relation item result) :
    ∃ results, List.Forall₂ relation items results := by
  induction items with
  | nil =>
      exact ⟨[], .nil⟩
  | cons item later inductionHypothesis =>
      obtain ⟨first, related⟩ := found item List.mem_cons_self
      obtain ⟨rest, laterRelated⟩ :=
        inductionHypothesis fun other member => found other (List.mem_cons_of_mem item member)
      exact ⟨first :: rest, .cons related laterRelated⟩

/-- What belongs together by a common mark has the same list of marks. -/
theorem map_eq_of_forall₂
    {α β γ : Type}
    {relation : α → β → Prop}
    {items : List α}
    {results : List β}
    {mark : β → γ}
    {itemMark : α → γ}
    (related : List.Forall₂ relation items results)
    (same : ∀ item result, relation item result → mark result = itemMark item) :
    results.map mark = items.map itemMark := by
  induction related with
  | nil =>
      rfl
  | cons headRelated _ inductionHypothesis =>
      rw [List.map_cons, List.map_cons, same _ _ headRelated, inductionHypothesis]

/-- What belongs to items as the images of results is the list of these results' images. -/
theorem forall₂_image_iff
    {α β γ : Type}
    {relation : α → β → Prop}
    {image : β → γ}
    {items : List α}
    {images : List γ} :
    List.Forall₂ (fun item each => ∃ result, relation item result ∧ each = image result)
        items images ↔
      ∃ results, List.Forall₂ relation items results ∧ images = results.map image := by
  constructor
  · intro related
    induction related with
    | nil =>
        exact ⟨[], .nil, rfl⟩
    | cons headRelated _ inductionHypothesis =>
        obtain ⟨first, firstRelated, rfl⟩ := headRelated
        obtain ⟨rest, restRelated, rfl⟩ := inductionHypothesis
        exact ⟨first :: rest, .cons firstRelated restRelated, rfl⟩
  · rintro ⟨results, related, rfl⟩
    rw [List.forall₂_map_right_iff]
    exact related.imp fun _ result isRelated => ⟨result, isRelated, rfl⟩

/-- Items are pairwise related as the results that belong to them are. -/
theorem pairwise_iff_of_forall₂
    {α β : Type}
    {relation : α → β → Prop}
    {between : α → α → Prop}
    {resultsBetween : β → β → Prop}
    {items : List α}
    {results : List β}
    (related : List.Forall₂ relation items results)
    (alike : ∀ item result other otherResult,
      relation item result → relation other otherResult →
        (between item other ↔ resultsBetween result otherResult)) :
    items.Pairwise between ↔ results.Pairwise resultsBetween := by
  induction related with
  | nil =>
      simp
  | @cons item result later rest headRelated laterRelated inductionHypothesis =>
      rw [List.pairwise_cons, List.pairwise_cons, inductionHypothesis]
      refine and_congr_left fun _ => ?_
      constructor
      · intro before otherResult member
        obtain ⟨other, otherMember, otherRelated⟩ := exists_left_of_forall₂ laterRelated member
        exact (alike item result other otherResult headRelated otherRelated).mp
          (before other otherMember)
      · intro before other member
        obtain ⟨otherResult, otherMember, otherRelated⟩ :=
          exists_right_of_forall₂ laterRelated member
        exact (alike item result other otherResult headRelated otherRelated).mpr
          (before otherResult otherMember)

/-! ## Errors -/

/-- Every error of an outcome has a property. -/
def FailsOnly {α : Type} (cause : SchemaError → Prop) (outcome : Except SchemaError α) : Prop :=
  ∀ error, outcome = .error error → cause error

section FailsOnly

variable {α β : Type} {cause weaker : SchemaError → Prop}

/-- A result is no error. -/
theorem failsOnly_ok
    {result : α} :
    FailsOnly cause (.ok result : Except SchemaError α) := by
  intro error failed
  cases failed

/-- An error has the properties of its own. -/
theorem failsOnly_error
    {error : SchemaError}
    (isCause : cause error) :
    FailsOnly cause (.error error : Except SchemaError α) := by
  intro other failed
  cases failed
  exact isCause

/-- A cause may be replaced by a weaker one. -/
theorem FailsOnly.mono
    {outcome : Except SchemaError α}
    (fails : FailsOnly cause outcome)
    (weaken : ∀ error, cause error → weaker error) :
    FailsOnly weaker outcome :=
  fun error failed => weaken error (fails error failed)

/-- An outcome that has no error is a result. -/
theorem FailsOnly.exists_ok
    {outcome : Except SchemaError α}
    (fails : FailsOnly (fun _ => False) outcome) :
    ∃ result, outcome = .ok result := by
  cases outcome with
  | ok result =>
      exact ⟨result, rfl⟩
  | error error =>
      exact (fails error rfl).elim

/-- The errors of a sequence are those of its first step and, after its result, of the next. -/
theorem FailsOnly.bind
    {first : Except SchemaError α}
    {next : α → Except SchemaError β}
    (firstFails : FailsOnly cause first)
    (nextFails : ∀ value, first = .ok value → FailsOnly cause (next value)) :
    FailsOnly cause (first >>= next) := by
  cases first with
  | ok value =>
      exact nextFails value rfl
  | error error =>
      exact failsOnly_error (firstFails error rfl)

/-- A condition that does not hold fails with its own error. -/
theorem failsOnly_require
    {condition : Bool}
    {error : SchemaError}
    (isCause : cause error) :
    FailsOnly cause (require condition error) := by
  cases condition with
  | true =>
      exact failsOnly_ok
  | false =>
      exact failsOnly_error isCause

/-- The errors of a check of a list are those of its items. -/
theorem failsOnly_checkAll
    {check : α → Except SchemaError Unit}
    {items : List α}
    (fails : ∀ item ∈ items, FailsOnly cause (check item)) :
    FailsOnly cause (checkAll check items) := by
  induction items with
  | nil =>
      exact failsOnly_ok
  | cons item later inductionHypothesis =>
      have laterFails : FailsOnly cause (checkAll check later) :=
        inductionHypothesis fun other member => fails other (List.mem_cons_of_mem item member)
      rw [checkAll]
      split
      · exact laterFails
      · next error failed =>
          exact failsOnly_error (fails item List.mem_cons_self error failed)

/-- The errors of a collection are those of its items. -/
theorem failsOnly_collect
    {step : α → Except SchemaError β}
    {items : List α}
    (fails : ∀ item ∈ items, FailsOnly cause (step item)) :
    FailsOnly cause (collect step items) := by
  induction items with
  | nil =>
      exact failsOnly_ok
  | cons item later inductionHypothesis =>
      have laterFails : FailsOnly cause (collect step later) :=
        inductionHypothesis fun other member => fails other (List.mem_cons_of_mem item member)
      rw [collect]
      split
      · split
        · exact failsOnly_ok
        · next error failed =>
            exact failsOnly_error (laterFails error failed)
      · next error failed =>
          exact failsOnly_error (fails item List.mem_cons_self error failed)

end FailsOnly

/-- Every error of an outcome is one that the author of a model can mend. -/
abbrev FailsForAuthor {α : Type} (outcome : Except SchemaError α) : Prop :=
  FailsOnly (fun error => error.isModelError = true) outcome

/-! ## Outcomes that agree -/

/-- Two outcomes are results that belong together, or the same error. -/
inductive Agree {α β : Type} (relation : α → β → Prop) :
    Except SchemaError α → Except SchemaError β → Prop
  | results {result : α} {other : β} (related : relation result other) :
      Agree relation (.ok result) (.ok other)
  | errors (error : SchemaError) : Agree relation (.error error) (.error error)

section Agree

variable {α β γ δ : Type} {relation : α → β → Prop}

/-- Outcomes that agree are two results or two errors. -/
theorem Agree.cases
    {outcome : Except SchemaError α}
    {other : Except SchemaError β}
    (agree : Agree relation outcome other) :
    (∃ result otherResult,
        outcome = .ok result ∧ other = .ok otherResult ∧ relation result otherResult) ∨
      ∃ error, outcome = .error error ∧ other = .error error := by
  cases agree with
  | results related =>
      exact .inl ⟨_, _, rfl, rfl, related⟩
  | errors error =>
      exact .inr ⟨error, rfl, rfl⟩

/-- Outcomes agree up to equality when they are the same. -/
theorem agree_eq_iff
    {outcome other : Except SchemaError α} :
    Agree (· = ·) outcome other ↔ outcome = other := by
  constructor
  · intro agree
    cases agree with
    | results same =>
        rw [same]
    | errors error =>
        rfl
  · rintro rfl
    cases outcome with
    | ok result =>
        exact .results rfl
    | error error =>
        exact .errors error

/-- Where one outcome has a result, one that agrees has a result that belongs to it. -/
theorem Agree.exists_right
    {outcome : Except SchemaError α}
    {other : Except SchemaError β}
    (agree : Agree relation outcome other)
    {result : α}
    (succeeded : outcome = .ok result) :
    ∃ otherResult, other = .ok otherResult ∧ relation result otherResult := by
  subst succeeded
  cases agree with
  | results related =>
      exact ⟨_, rfl, related⟩

/-- Sequences agree when their first steps do and, after results that belong together, the next. -/
theorem Agree.bind
    {later : γ → δ → Prop}
    {first : Except SchemaError α}
    {other : Except SchemaError β}
    {next : α → Except SchemaError γ}
    {otherNext : β → Except SchemaError δ}
    (agree : Agree relation first other)
    (nextAgree : ∀ value otherValue,
      relation value otherValue → Agree later (next value) (otherNext otherValue)) :
    Agree later (first >>= next) (other >>= otherNext) := by
  cases agree with
  | results related =>
      exact nextAgree _ _ related
  | errors error =>
      exact .errors error

end Agree

end SchemaScript
