import SchemaScript.Model.ColumnType
import SchemaScript.Proofs.Dialect
import SchemaScript.Proofs.Entity.Resolution
import SchemaScript.Proofs.Model.WellFormed

/-!
# Types of columns

What a chain of references leads to, and how a column can be left without a
type.  A reference takes the type of the field that it points at, however long
the chains of both are allowed to be.  The type at the end of a chain is no
reference, and every database has a name for it, except that one which writes
the types of elements cannot write references inside an array.
-/

namespace SchemaScript

/-! ## Fields that references point at -/

namespace Entity

/-- A reference without a field points at the primary key. -/
theorem referencedField_none_eq_ok_iff
    {entity : Entity}
    {field : Field} :
    entity.referencedField none = .ok field ↔ entity.primaryKey? = some field := by
  simp only [referencedField]
  cases entity.primaryKey? <;> simp

/-- A field that is referred to is one of the entity. -/
theorem mem_of_referencedField
    {entity : Entity}
    {name? : Option String}
    {field : Field}
    (found : entity.referencedField name? = .ok field) :
    field ∈ entity.fields := by
  cases name? with
  | some name =>
      exact mem_of_findField? (resolveField_eq_ok_iff.mp found)
  | none =>
      exact List.mem_of_find?_eq_some (referencedField_none_eq_ok_iff.mp found)

/-- A well-formed entity has a primary key. -/
theorem WellFormed.exists_primaryKey
    {entity : Entity}
    (wellFormed : entity.WellFormed) :
    ∃ key, entity.primaryKey? = some key := by
  have counted : 0 < entity.primaryKeyCount := by
    rw [wellFormed.onePrimaryKey]
    decide
  obtain ⟨key, member, isKey⟩ := List.countP_pos_iff.mp counted
  rw [← Option.isSome_iff_exists, primaryKey?, List.find?_isSome]
  exact ⟨key, member, isKey⟩

/-- A name that finds nothing is an error of the author. -/
theorem resolveField_fails
    {entity : Entity}
    {name : String} :
    FailsForAuthor (entity.resolveField name) := by
  simp only [resolveField]
  split
  · exact failsOnly_ok
  · exact failsOnly_error rfl

/-- A reference to a field that is not there is an error of the author. -/
theorem referencedField_fails
    {entity : Entity}
    {name? : Option String} :
    FailsForAuthor (entity.referencedField name?) := by
  cases name? with
  | some name =>
      exact resolveField_fails
  | none =>
      simp only [referencedField]
      split
      · exact failsOnly_ok
      · exact failsOnly_error rfl

end Entity

namespace Model

variable {model : Model}

/-- An entity that is not there is an error of the author. -/
theorem requireEntity_fails
    {name : String} :
    FailsForAuthor (model.requireEntity name) := by
  simp only [requireEntity]
  split
  · exact failsOnly_ok
  · exact failsOnly_error rfl

/-- A reference finds its entity first and then its field. -/
theorem referencedBy_eq_bind
    {entity field : String} :
    model.referencedBy entity field =
      model.requireEntity entity >>= fun target =>
        target.referencedField (if field.isEmpty then none else some field) := by
  simp only [referencedBy]
  cases model.requireEntity entity <;> rfl

/-- A reference that finds nothing is an error of the author. -/
theorem referencedBy_fails
    {entity field : String} :
    FailsForAuthor (model.referencedBy entity field) := by
  rw [referencedBy_eq_bind]
  exact .bind requireEntity_fails fun _ _ => Entity.referencedField_fails

/-! ## Chains of references -/

/-- A chain that ends does so when more steps are allowed, from wherever it is said to start. -/
theorem followReferences_succ
    {start other dataType concrete : DataType}
    {steps : Nat}
    (followed : model.followReferences start steps dataType = .ok concrete) :
    model.followReferences other (steps + 1) dataType = .ok concrete := by
  induction steps generalizing dataType with
  | zero =>
      cases followed
  | succ steps inductionHypothesis =>
      cases dataType with
      | reference entity field =>
          rw [followReferences] at followed ⊢
          cases found : model.referencedBy entity field with
          | ok target =>
              rw [found] at followed
              exact inductionHypothesis followed
          | error error =>
              rw [found] at followed
              cases followed
      | _ =>
          exact followed

/-- A chain of references ends at a type that is no reference. -/
theorem not_isReference_of_followReferences
    {start dataType concrete : DataType}
    {steps : Nat}
    (followed : model.followReferences start steps dataType = .ok concrete) :
    concrete.isReference = false := by
  induction steps generalizing dataType with
  | zero =>
      cases followed
  | succ steps inductionHypothesis =>
      cases dataType with
      | reference entity field =>
          rw [followReferences] at followed
          split at followed
          · exact inductionHypothesis followed
          · cases followed
      | _ =>
          cases followed
          rfl

/-- References that lead nowhere are an error of the author. -/
theorem followReferences_fails
    {start dataType : DataType}
    {steps : Nat} :
    FailsForAuthor (model.followReferences start steps dataType) := by
  induction steps generalizing dataType with
  | zero =>
      exact failsOnly_error rfl
  | succ steps inductionHypothesis =>
      cases dataType with
      | reference entity field =>
          rw [followReferences]
          split
          · exact inductionHypothesis
          · next error failed =>
              exact failsOnly_error (referencedBy_fails error failed)
      | _ =>
          exact failsOnly_ok

/-- A reference ends where the type of the field that it points at ends. -/
theorem concreteType_of_reference
    {entity field : String}
    {concrete : DataType}
    (followed : model.concreteType (.reference entity field) = .ok concrete) :
    ∃ target, model.referencedBy entity field = .ok target ∧
      model.concreteType target.dataType = .ok concrete := by
  simp only [concreteType, referenceDepth, followReferences] at followed
  split at followed
  · next target found =>
      exact ⟨target, found, followReferences_succ followed⟩
  · cases followed

/-- A type that is no reference is its own end. -/
theorem concreteType_of_not_isReference
    {dataType : DataType}
    (notReference : dataType.isReference = false) :
    model.concreteType dataType = .ok dataType := by
  cases dataType with
  | reference entity field =>
      cases notReference
  | _ =>
      rfl

end Model

/-! ## Names of types -/

/-- The type of what stands in an array, if need be in an array in it. -/
def DataType.innermost : DataType → DataType
  | .array element => element.innermost
  | other => other

namespace Database

/-- A type that is no reference has a name unless the database writes its elements. -/
theorem postgreSQLType_eq_error
    {dataType : DataType}
    {error : SchemaError}
    (failed : postgreSQLType dataType = .error error) :
    ∃ entity field, dataType.innermost = .reference entity field ∧
      error = unresolvedReference (.reference entity field) := by
  induction dataType with
  | array element inductionHypothesis =>
      rw [postgreSQLType] at failed
      split at failed
      · cases failed
      · next inner innerFailed =>
          cases failed
          exact inductionHypothesis innerFailed
  | reference entity field =>
      cases failed
      exact ⟨entity, field, rfl, rfl⟩
  | _ =>
      cases failed

/-- A type that is no reference has a name unless elements are written that are references. -/
theorem sqlType_eq_error
    {database : Database}
    {dataType : DataType}
    {error : SchemaError}
    (notReference : dataType.isReference = false)
    (failed : database.sqlType dataType = .error error) :
    database = .postgreSQL ∧
      ∃ entity field, dataType.innermost = .reference entity field ∧
        error = unresolvedReference (.reference entity field) := by
  cases database with
  | postgreSQL =>
      exact ⟨rfl, postgreSQLType_eq_error failed⟩
  | mySQL =>
      cases dataType <;> cases failed
      cases notReference
  | sqlite =>
      cases dataType <;> cases failed
      cases notReference

/-- Whole numbers that a database can assign have a type with a name. -/
theorem exists_sqlType_of_generatedKey?
    {database : Database}
    {dataType : DataType}
    {clause : String}
    (assigned : database.generatedKey? dataType = some clause) :
    dataType.isReference = false ∧ ∃ name, database.sqlType dataType = .ok name := by
  cases database <;> cases dataType <;> cases assigned <;> exact ⟨rfl, _, rfl⟩

end Database

namespace Model

variable {model : Model} {database : Database} {field : Field}

/-- The type of a column is what the database calls the type that its references end in. -/
theorem columnType_eq_ok_iff
    {name : String} :
    model.columnType database field = .ok name ↔
      ∃ concrete, model.concreteType field.dataType = .ok concrete ∧
        database.sqlType concrete = .ok name := by
  simp only [columnType]
  cases model.concreteType field.dataType <;> simp

/-- The type of a column is named as types are. -/
theorem typeName_of_columnType
    {name : String}
    (typed : model.columnType database field = .ok name) :
    Database.TypeName name := by
  obtain ⟨_, _, named⟩ := columnType_eq_ok_iff.mp typed
  exact Database.typeName_of_sqlType named

/-- A column that holds references has the type of the column that they point at. -/
theorem columnType_of_reference
    {name entity targetField : String}
    (typed : model.columnType database field = .ok name)
    (refers : field.dataType = .reference entity targetField) :
    ∃ target, model.referencedBy entity targetField = .ok target ∧
      model.columnType database target = .ok name := by
  obtain ⟨concrete, followed, named⟩ := columnType_eq_ok_iff.mp typed
  rw [refers] at followed
  obtain ⟨target, found, targetFollowed⟩ := concreteType_of_reference followed
  exact ⟨target, found, columnType_eq_ok_iff.mpr ⟨concrete, targetFollowed, named⟩⟩

/--
A field whose type ends in an array of references, which a database that
writes the types of elements has no name for.
-/
structure HoldsReferences (model : Model) (database : Database) (field : Field)
    (error : SchemaError) : Prop where
  writesElements : database = .postgreSQL
  references :
    ∃ concrete entity target,
      model.concreteType field.dataType = .ok concrete ∧
        concrete.innermost = .reference entity target ∧
        error = Database.unresolvedReference (.reference entity target)

/-- A column without a type is for the author to mend, or its field holds references in arrays. -/
theorem columnType_fails :
    FailsOnly (fun error => error.isModelError = true ∨ HoldsReferences model database field error)
      (model.columnType database field) := by
  intro error failed
  simp only [columnType] at failed
  split at failed
  · next concrete followed =>
      obtain ⟨writesElements, entity, target, innermost, same⟩ :=
        Database.sqlType_eq_error (not_isReference_of_followReferences followed) failed
      exact .inr ⟨writesElements, concrete, entity, target, followed, innermost, same⟩
  · next other notFollowed =>
      cases failed
      exact .inl (followReferences_fails error notFollowed)

end Model

end SchemaScript
