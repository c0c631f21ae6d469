import SchemaScript.Proofs.Model.ColumnType
import SchemaScript.Proofs.TableUnit.Assembly

/-!
# Defaults in definitions of columns

A column's definition shows the default of its field when the value can be
written and the type that the field declares allows it.  Nothing else in a
definition begins like a default, be it the name of a type or what stands for
a key that the database assigns, and a field with such a key has no default.
-/

namespace SchemaScript

open Sql

/-! ## Words -/

/-- A text begins like the default of a column. -/
def BeginsDefault (text : String) : Prop :=
  ∃ literal, text = "DEFAULT " ++ literal

/-- A column's definition shows a default. -/
def Sql.ColumnBody.ShowsDefault (body : ColumnBody) : Prop :=
  ∃ word ∈ body.words, BeginsDefault word

/-- A text whose third letter is another one does not begin like a default. -/
theorem not_beginsDefault_of_third
    {text : String}
    (different : text.toList[2]? ≠ some 'F') :
    ¬ BeginsDefault text := by
  rintro ⟨literal, rfl⟩
  apply different
  rw [String.toList_append]
  rfl

namespace Database

/-- The name of a type has a third letter, which is not that of a default. -/
theorem TypeName.third
    {name : String}
    (built : TypeName name) :
    2 < name.toList.length ∧ name.toList[2]? ≠ some 'F' := by
  induction built with
  | plain listed =>
      have thirds :
          ∀ name ∈ plainTypeNames, 2 < name.toList.length ∧ name.toList[2]? ≠ some 'F' := by
        decide +kernel
      exact thirds _ listed
  | sized size =>
      simp [Database.sized]
  | decimal digits places =>
      simp [decimalType]
  | array _ inductionHypothesis =>
      obtain ⟨long, different⟩ := inductionHypothesis
      rw [String.toList_append, List.length_append, List.getElem?_append_left long]
      exact ⟨Nat.lt_add_right _ long, different⟩

/-- No name of a type begins like a default. -/
theorem TypeName.not_beginsDefault
    {name : String}
    (built : TypeName name) :
    ¬ BeginsDefault name :=
  not_beginsDefault_of_third built.third.2

/-- No clause that generates keys begins like a default. -/
theorem not_beginsDefault_of_generatedKey?
    {database : Database}
    {dataType : DataType}
    {clause : String}
    (assigned : database.generatedKey? dataType = some clause) :
    ¬ BeginsDefault clause := by
  have thirds : ∀ clause ∈ generatedKeyClauses, clause.toList[2]? ≠ some 'F' := by
    decide +kernel
  exact not_beginsDefault_of_third (thirds clause (mem_generatedKeyClauses assigned))

end Database

/-- A column that the database does not assign shows the default that it is given. -/
theorem Sql.ColumnBody.showsDefault_plain_iff
    {sqlType : String}
    {notNull unique primaryKey : Bool}
    {literal? : Option String}
    (plainType : ¬ BeginsDefault sqlType) :
    (ColumnBody.plain sqlType notNull unique primaryKey literal?).ShowsDefault ↔
      literal?.isSome = true := by
  have restrictions :
      ¬ BeginsDefault "NOT NULL" ∧ ¬ BeginsDefault "UNIQUE" ∧ ¬ BeginsDefault "PRIMARY KEY" :=
    ⟨not_beginsDefault_of_third (by decide), not_beginsDefault_of_third (by decide),
      not_beginsDefault_of_third (by decide)⟩
  have shown
      (literal : String) :
      BeginsDefault ("DEFAULT " ++ literal) :=
    ⟨literal, rfl⟩
  cases literal? <;> cases notNull <;> cases unique <;> cases primaryKey <;>
    simp [ShowsDefault, words, plainType, restrictions, shown]

/-! ## Values -/

/-- Whether a default has a literal or an expression that a definition can show. -/
def DefaultValue.isWritable : DefaultValue → Bool
  | .float number => number.isFinite
  | .updateTime => false
  | .callable _ => false
  | _ => true

/-- Whether a field has a default that its column shows. -/
def Field.writesDefault (field : Field) : Bool :=
  field.dataType.inlinesDefault && field.defaultValue.any (·.isWritable)

namespace TableUnit

variable {model : Model} {database : Database} {field : Field} {body : ColumnBody}

/-- A column shows a default when its field's value can be written and the type allows it. -/
theorem shownDefault_isSome
    {literal? : Option String}
    (shown : shownDefault database field = .ok literal?) :
    literal?.isSome = field.writesDefault := by
  rw [shownDefault, defaultLiteral] at shown
  rw [Field.writesDefault]
  cases given : field.defaultValue with
  | none =>
      rw [given] at shown
      cases shown
      simp
  | some value =>
      rw [given] at shown
      cases allowed : field.dataType.inlinesDefault with
      | false =>
          simp only [allowed] at shown
          cases shown
          simp
      | true =>
          simp only [allowed, if_true] at shown
          rw [Bool.true_and, Option.any_some]
          cases value with
          | float number =>
              cases finite : number.isFinite <;>
                simp only [finite, if_true, Bool.false_eq_true, if_false] at shown <;>
                cases shown <;>
                simp [DefaultValue.isWritable, finite]
          | _ =>
              cases shown
              rfl

/-- The column of a well-formed field shows a default exactly when the field writes one. -/
theorem columnBody_showsDefault_iff
    (wellFormed : field.WellFormed)
    (found : columnBody model database field = .ok body) :
    body.ShowsDefault ↔ field.writesDefault = true := by
  rcases columnBody_cases found with
    ⟨clause, isKey, assigned, rfl⟩ | ⟨sqlType, literal?, typed, shown, rfl⟩
  · have noDefault : field.writesDefault = false := by
      rw [Field.writesDefault, wellFormed.generatedHasNoDefault isKey, Option.any_none,
        Bool.and_false]
    have notShown : ¬ BeginsDefault clause :=
      Database.not_beginsDefault_of_generatedKey? assigned
    simp [ColumnBody.ShowsDefault, ColumnBody.words, notShown, noDefault]
  · have plainType := (Model.typeName_of_columnType typed).not_beginsDefault
    rw [ColumnBody.showsDefault_plain_iff plainType, shownDefault_isSome shown]

end TableUnit

end SchemaScript
