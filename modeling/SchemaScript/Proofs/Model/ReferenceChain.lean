import Mathlib.Data.Fintype.Pigeonhole
import SchemaScript.Proofs.Model.ColumnType

/-!
# Chains of references

A type that refers to a field leads to the type of this field, and so on.  The
chain ends at a type that is no reference, breaks at a reference that points at
nothing, or goes round for ever.  A column has the type at the end of the chain
as long as the chain is shorter than the number of types that are looked at; a
chain of that many references is given up, although its end may be next.
-/

namespace SchemaScript.Model

/-! ## Chains -/

/-- A chain of so many references leads from one type to another. -/
inductive LeadsTo (model : Model) : Nat → DataType → DataType → Prop where
  | here
      {dataType : DataType} :
      LeadsTo model 0 dataType dataType
  | reference
      {length : Nat}
      {entity field : String}
      {target : Field}
      {last : DataType}
      (found : model.referencedBy entity field = .ok target)
      (later : LeadsTo model length target.dataType last) :
      LeadsTo model (length + 1) (.reference entity field) last

/-- A chain goes on for ever. -/
def Endless (model : Model) (start : DataType) : Prop :=
  ∀ length, ∃ last, model.LeadsTo length start last

variable {model : Model} {start last : DataType} {length : Nat}

namespace LeadsTo

/-- A chain of no references ends where it starts. -/
theorem zero_iff :
    model.LeadsTo 0 start last ↔ start = last := by
  constructor
  · intro chain
    cases chain
    rfl
  · rintro rfl
    exact .here

/-- A chain goes on after its first reference. -/
theorem succ_iff :
    model.LeadsTo (length + 1) start last ↔
      ∃ entity field target, start = .reference entity field ∧
        model.referencedBy entity field = .ok target ∧
        model.LeadsTo length target.dataType last := by
  constructor
  · intro chain
    cases chain with
    | reference found later =>
        exact ⟨_, _, _, rfl, found, later⟩
  · rintro ⟨_, _, _, rfl, found, later⟩
    exact .reference found later

/-- Chains are put together. -/
theorem trans
    {between : DataType}
    {more : Nat}
    (chain : model.LeadsTo length start between)
    (later : model.LeadsTo more between last) :
    model.LeadsTo (length + more) start last := by
  induction chain with
  | here =>
      rwa [Nat.zero_add]
  | @reference length _ _ _ _ found _ inductionHypothesis =>
      rw [Nat.add_right_comm]
      exact .reference found (inductionHypothesis later)

/-- A longer chain passes where a shorter one leads. -/
theorem split
    {more : Nat}
    (chain : model.LeadsTo (length + more) start last) :
    ∃ between, model.LeadsTo length start between ∧ model.LeadsTo more between last := by
  induction length generalizing start with
  | zero =>
      rw [Nat.zero_add] at chain
      exact ⟨start, .here, chain⟩
  | succ length inductionHypothesis =>
      rw [Nat.add_right_comm, succ_iff] at chain
      obtain ⟨entity, field, target, rfl, found, later⟩ := chain
      obtain ⟨between, first, second⟩ := inductionHypothesis later
      exact ⟨between, .reference found first, second⟩

end LeadsTo

/-- Where a chain of a given length leads, unless it ends or breaks before. -/
def chainEnd? (model : Model) : Nat → DataType → Option DataType
  | 0, dataType => some dataType
  | length + 1, .reference entity field =>
      match model.referencedBy entity field with
      | .ok target => model.chainEnd? length target.dataType
      | .error _ => none
  | _ + 1, _ => none

/-- The end of a chain can be computed. -/
theorem chainEnd?_eq_some_iff :
    model.chainEnd? length start = some last ↔ model.LeadsTo length start last := by
  induction length generalizing start with
  | zero =>
      rw [chainEnd?, Option.some.injEq, LeadsTo.zero_iff]
  | succ length inductionHypothesis =>
      cases start with
      | reference entity field =>
          cases found : model.referencedBy entity field <;>
            simp [chainEnd?, LeadsTo.succ_iff, found, inductionHypothesis]
      | _ =>
          simp [chainEnd?, LeadsTo.succ_iff]

instance :
    Decidable (model.LeadsTo length start last) :=
  decidable_of_iff _ chainEnd?_eq_some_iff

/-- The length of a chain tells where it leads. -/
theorem LeadsTo.unique
    {other : DataType}
    (chain : model.LeadsTo length start last)
    (otherChain : model.LeadsTo length start other) :
    last = other := by
  rw [← chainEnd?_eq_some_iff] at chain otherChain
  exact Option.some.inj (chain.symm.trans otherChain)

/-! ## How chains go on -/

/-- A chain ends at a type that is no reference. -/
def Ends (model : Model) (start : DataType) : Prop :=
  ∃ length last, model.LeadsTo length start last ∧ last.isReference = false

/-- A chain breaks at a reference that points at nothing. -/
def Breaks (model : Model) (start : DataType) : Prop :=
  ∃ length entity field error, model.LeadsTo length start (.reference entity field) ∧
    model.referencedBy entity field = .error error

/-- A chain ends, breaks, or goes on for ever. -/
theorem chain_cases
    (model : Model)
    (start : DataType) :
    model.Ends start ∨ model.Breaks start ∨ model.Endless start := by
  by_cases ends : model.Ends start
  · exact .inl ends
  by_cases breaks : model.Breaks start
  · exact .inr (.inl breaks)
  refine .inr (.inr fun length => ?_)
  induction length with
  | zero =>
      exact ⟨start, .here⟩
  | succ length inductionHypothesis =>
      obtain ⟨last, chain⟩ := inductionHypothesis
      cases last with
      | reference entity field =>
          cases found : model.referencedBy entity field with
          | ok target =>
              exact ⟨target.dataType, chain.trans (.reference found .here)⟩
          | error error =>
              exact (breaks ⟨length, entity, field, error, chain, found⟩).elim
      | _ =>
          exact (ends ⟨length, _, chain, rfl⟩).elim

/-- A chain that returns to where it has been goes on for ever. -/
theorem endless_of_cycle
    {between : DataType}
    {before : Nat}
    (chain : model.LeadsTo before start between)
    (cycle : model.LeadsTo (length + 1) between between) :
    model.Endless start := by
  have rounds
      (count : Nat) :
      model.LeadsTo (count * (length + 1)) between between := by
    induction count with
    | zero =>
        rw [Nat.zero_mul]
        exact .here
    | succ count inductionHypothesis =>
        rw [Nat.succ_mul]
        exact inductionHypothesis.trans cycle
  intro wanted
  have enough : wanted ≤ before + wanted * (length + 1) :=
    Nat.le_add_left_of_le (Nat.le_mul_of_pos_right wanted length.succ_pos)
  obtain ⟨more, isEnough⟩ := Nat.exists_eq_add_of_le enough
  have long := chain.trans (rounds wanted)
  rw [isEnough] at long
  obtain ⟨last, first, _⟩ := long.split
  exact ⟨last, first⟩

/-- A field that is referred to is a field of an entity of the model. -/
theorem mem_of_referencedBy
    {entity field : String}
    {target : Field}
    (found : model.referencedBy entity field = .ok target) :
    target ∈ model.entities.flatMap (·.fields) := by
  rw [referencedBy_eq_bind, bind_eq_ok_iff] at found
  obtain ⟨owner, ownerFound, targetFound⟩ := found
  exact
    List.mem_flatMap.mpr
      ⟨owner, mem_of_requireEntity ownerFound, Entity.mem_of_referencedField targetFound⟩

/-- Where a chain leads after its start is the type of a field of the model. -/
theorem LeadsTo.exists_field
    (chain : model.LeadsTo (length + 1) start last) :
    ∃ field ∈ model.entities.flatMap (·.fields), field.dataType = last := by
  obtain ⟨between, _, step⟩ := chain.split
  obtain ⟨_, _, target, _, found, here⟩ := succ_iff.mp step
  exact ⟨target, mem_of_referencedBy found, zero_iff.mp here⟩

/-- A chain goes on for ever exactly when it returns to where it has been. -/
theorem endless_iff_exists_cycle :
    model.Endless start ↔
      ∃ between before length, model.LeadsTo before start between ∧
        model.LeadsTo (length + 1) between between := by
  constructor
  · intro endless
    choose between chain using endless
    -- every type that the chain comes by is that of one of finitely many fields
    let types := (model.entities.flatMap (·.fields)).map (·.dataType)
    have inTypes
        (length : Nat) :
        between (length + 1) ∈ types := by
      obtain ⟨field, member, same⟩ := (chain (length + 1)).exists_field
      exact List.mem_map.mpr ⟨field, member, same⟩
    obtain ⟨one, another, different, same⟩ :=
      Finite.exists_ne_map_eq_of_infinite
        fun length : Nat => (⟨between (length + 1), inTypes length⟩ : { type // type ∈ types })
    wlog earlier : one < another generalizing one another
    · exact this another one different.symm same.symm (by omega)
    have met : between (one + 1) = between (another + 1) := congrArg Subtype.val same
    obtain ⟨length, isAnother⟩ : ∃ length, another + 1 = one + 1 + (length + 1) :=
      ⟨another - one - 1, by omega⟩
    have long := chain (another + 1)
    rw [isAnother] at long
    obtain ⟨other, first, cycle⟩ := long.split
    have isOne := (chain (one + 1)).unique first
    rw [← isAnother, ← met, ← isOne] at cycle
    exact ⟨between (one + 1), one + 1, length, chain (one + 1), cycle⟩
  · rintro ⟨between, before, length, chain, cycle⟩
    exact endless_of_cycle chain cycle

/-! ## Types of columns -/

/-- What is looked at along a chain is looked at from where it leads. -/
theorem LeadsTo.followReferences_eq
    {first : DataType}
    {steps : Nat}
    (chain : model.LeadsTo length start last) :
    model.followReferences first (length + steps) start =
      model.followReferences first steps last := by
  induction chain with
  | here =>
      rw [Nat.zero_add]
  | @reference length _ _ _ _ found _ inductionHypothesis =>
      rw [Nat.add_right_comm, followReferences, found]
      exact inductionHypothesis

/-- A chain that is short enough is followed to where it leads. -/
theorem LeadsTo.concreteType_eq
    (chain : model.LeadsTo length start last)
    (short : length < referenceDepth) :
    ∃ steps, model.concreteType start = model.followReferences start (steps + 1) last := by
  obtain ⟨steps, same⟩ := Nat.exists_eq_add_of_lt short
  refine ⟨steps, ?_⟩
  rw [concreteType, same, Nat.add_assoc]
  exact chain.followReferences_eq

/-- A chain that is not is given up. -/
theorem LeadsTo.concreteType_eq_error
    (chain : model.LeadsTo length start last)
    (long : referenceDepth ≤ length) :
    model.concreteType start = .error (tooDeep start) := by
  obtain ⟨more, rfl⟩ := Nat.exists_eq_add_of_le long
  obtain ⟨between, first, _⟩ := chain.split
  have givenUp :
      model.followReferences start (referenceDepth + 0) start =
        model.followReferences start 0 between :=
    first.followReferences_eq
  exact givenUp

/--
A column whose field starts a chain of fewer than sixteen references has the
type at the end of the chain.  A longer chain, and one that goes round for
ever, is given up with an error, and a reference among the first sixteen that
points at nothing is reported as such.  There are no other chains.
-/
theorem columnType_of_chain
    (model : Model)
    (database : Database)
    (field : Field) :
    (∀ length last, model.LeadsTo length field.dataType last → last.isReference = false →
        length < 16 → model.columnType database field = database.sqlType last) ∧
      (∀ length last, model.LeadsTo length field.dataType last → 16 ≤ length →
        model.columnType database field = .error (tooDeep field.dataType)) ∧
      (model.Endless field.dataType →
        model.columnType database field = .error (tooDeep field.dataType)) ∧
      (∀ length entity name error, model.LeadsTo length field.dataType (.reference entity name) →
        length < 16 → model.referencedBy entity name = .error error →
          model.columnType database field = .error error) ∧
      (model.Ends field.dataType ∨ model.Breaks field.dataType ∨
        ∃ between before length, model.LeadsTo before field.dataType between ∧
          model.LeadsTo (length + 1) between between) := by
  have givenUp
      (length : Nat)
      (last : DataType)
      (chain : model.LeadsTo length field.dataType last)
      (long : 16 ≤ length) :
      model.columnType database field = .error (tooDeep field.dataType) := by
    rw [columnType, chain.concreteType_eq_error long]
  refine ⟨?_, givenUp, ?_, ?_, ?_⟩
  · intro length last chain isEnd short
    obtain ⟨steps, followed⟩ := chain.concreteType_eq short
    rw [columnType, followed]
    cases last with
    | reference entity name => cases isEnd
    | _ => rfl
  · intro endless
    obtain ⟨last, chain⟩ := endless 16
    exact givenUp 16 last chain (Nat.le_refl 16)
  · intro length entity name error chain short failed
    obtain ⟨steps, followed⟩ := chain.concreteType_eq short
    rw [columnType, followed, Model.followReferences, failed]
  · rw [← endless_iff_exists_cycle]
    exact model.chain_cases field.dataType

/-! ## A chain of sixteen references -/

/-- The field at a stop of a trail refers to the one before, and the first to the key. -/
def trailStop : Nat → Field
  | 0 => .named "stop0" (.reference "Trail" "")
  | stop + 1 =>
      .named ("stop" ++ toString (stop + 1)) (.reference "Trail" ("stop" ++ toString stop))

/-- A field that refers to itself. -/
def trailRing : Field :=
  .named "ring" (.reference "Trail" "ring")

/-- A field that refers to an entity that is not declared. -/
def trailGhost : Field :=
  .named "ghost" (.reference "Ghost" "")

/-- A model of one entity, whose fields refer to one another. -/
def trailModel : Model where
  info := .named "Trails"
  entities := [
    { Entity.named "Trail" with
      fields := Field.generatedKey :: trailRing :: (List.range 16).map trailStop }]

/-- A trail of fifteen references has a type; a ring of them and one into nowhere have none. -/
theorem columnType_of_chain_trailModel :
    trailModel.LeadsTo 15 (trailStop 14).dataType .int32 ∧
      trailModel.columnType .postgreSQL (trailStop 14) = Database.sqlType .postgreSQL .int32 ∧
      trailModel.Endless trailRing.dataType ∧
      trailModel.columnType .postgreSQL trailRing = .error (tooDeep trailRing.dataType) ∧
      trailModel.columnType .postgreSQL trailGhost = .error (.entityNotFound "Ghost") := by
  obtain ⟨followed, _⟩ := columnType_of_chain trailModel .postgreSQL (trailStop 14)
  obtain ⟨_, _, ringGivenUp, _⟩ := columnType_of_chain trailModel .postgreSQL trailRing
  obtain ⟨_, _, _, broken, _⟩ := columnType_of_chain trailModel .postgreSQL trailGhost
  have chain : trailModel.LeadsTo 15 (trailStop 14).dataType .int32 := by decide +kernel
  have ring : trailModel.LeadsTo 1 trailRing.dataType trailRing.dataType := by decide +kernel
  have endless : trailModel.Endless trailRing.dataType := endless_of_cycle .here ring
  exact
    ⟨chain, followed 15 .int32 chain rfl (by decide), endless, ringGivenUp endless,
      broken 0 "Ghost" "" _ .here (by decide) rfl⟩

/-- The type at the end of a chain of sixteen references is not found. -/
theorem trailModel_chain_given_up :
    trailModel.validate = .ok () ∧
      trailModel.LeadsTo 16 (trailStop 15).dataType .int32 ∧
      trailModel.columnType .postgreSQL (trailStop 15) =
        .error (.invalid "reference chain starting at Ref<Trail> is too deep") ∧
      Database.sqlType .postgreSQL .int32 = .ok "INT" := by
  decide +kernel

end SchemaScript.Model
