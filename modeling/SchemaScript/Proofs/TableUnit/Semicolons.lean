import SchemaScript.Proofs.Script.Integrity
import SchemaScript.Proofs.Sql.Semicolons
import SchemaScript.Proofs.TableUnit.ScriptNames

/-!
# Models without semicolons

What a script takes over from its model are names, descriptions, and the texts
and expressions that are defaults.  When none of them holds a semicolon, every
statement has just the one at its end.
-/

namespace SchemaScript

open Sql

/-- The text of a default that is a text or an expression. -/
def Field.defaultText? (field : Field) : Option String :=
  match field.defaultValue with
  | some (.string text) => some text
  | some (.expression sql) => some sql
  | _ => none

/-- What an entity, its fields and its relationships say of themselves. -/
def Entity.descriptions (entity : Entity) : List String :=
  entity.description.toList ++ entity.fields.filterMap (·.description) ++
    entity.relationships.filterMap (·.description)

/-- The names of the join table of a relationship and of its columns. -/
def Relationship.joinNames (relationship : Relationship) (ownerTable : String) : List String :=
  [relationship.junctionFor ownerTable, relationship.backwardKeyFor ownerTable,
    relationship.forwardKeyName]

/-- The names and texts that an entity hands on to the script. -/
def Entity.givenTexts (entity : Entity) : List String :=
  [entity.tableName] ++ entity.namespaceName?.toList ++ entity.fields.map (·.columnName) ++
    entity.indexes.filterMap (·.name) ++
    entity.manyToMany.flatMap (·.joinNames entity.tableName) ++ entity.descriptions ++
    entity.fields.filterMap (·.defaultText?)

/-- No name or text that a model hands on to its script holds a semicolon. -/
def Model.WithoutSemicolons (model : Model) : Prop :=
  ∀ entity ∈ model.entities, ∀ text ∈ entity.givenTexts, NoSemicolon text

instance (model : Model) : Decidable model.WithoutSemicolons :=
  inferInstanceAs
    (Decidable (∀ entity ∈ model.entities, ∀ text ∈ entity.givenTexts, NoSemicolon text))

namespace Model.WithoutSemicolons

variable {model : Model} {entity : Entity}

section Entity

variable (free : model.WithoutSemicolons) (member : entity ∈ model.entities)

include free member

theorem table : NoSemicolon entity.tableName := by
  apply free entity member
  simp [Entity.givenTexts]

theorem space
    {name : String}
    (lies : entity.namespaceName? = some name) :
    NoSemicolon name := by
  apply free entity member
  simp [Entity.givenTexts, lies]

theorem column
    {field : Field}
    (fieldMember : field ∈ entity.fields) :
    NoSemicolon field.columnName := by
  apply free entity member
  have listed : field.columnName ∈ entity.fields.map (·.columnName) :=
    List.mem_map_of_mem fieldMember
  simp only [Entity.givenTexts, List.mem_append, listed, true_or, or_true]

theorem index
    {index : Index}
    (indexMember : index ∈ entity.indexes)
    {name : String}
    (given : index.name = some name) :
    NoSemicolon name := by
  apply free entity member
  have listed : name ∈ entity.indexes.filterMap (·.name) :=
    List.mem_filterMap.mpr ⟨index, indexMember, given⟩
  simp only [Entity.givenTexts, List.mem_append, listed, true_or, or_true]

theorem join
    {relationship : Relationship}
    (owns : relationship ∈ entity.manyToMany)
    {name : String}
    (named : name ∈ relationship.joinNames entity.tableName) :
    NoSemicolon name := by
  apply free entity member
  have listed : name ∈ entity.manyToMany.flatMap (·.joinNames entity.tableName) :=
    List.mem_flatMap.mpr ⟨relationship, owns, named⟩
  simp only [Entity.givenTexts, List.mem_append, listed, true_or, or_true]

theorem description
    {text : String}
    (described : text ∈ entity.descriptions) :
    NoSemicolon text := by
  apply free entity member
  simp only [Entity.givenTexts, List.mem_append, described, true_or, or_true]

theorem default
    {field : Field}
    (fieldMember : field ∈ entity.fields)
    {text : String}
    (given : field.defaultText? = some text) :
    NoSemicolon text := by
  apply free entity member
  have listed : text ∈ entity.fields.filterMap (·.defaultText?) :=
    List.mem_filterMap.mpr ⟨field, fieldMember, given⟩
  simp only [Entity.givenTexts, List.mem_append, listed, or_true]

end Entity

/-- Derived names hold no semicolon unless those that they are derived from do. -/
theorem scriptName
    (free : model.WithoutSemicolons)
    {name : String}
    (named : model.ScriptName name) :
    NoSemicolon name := by
  induction named with
  | table member =>
      exact free.table member
  | space member lies =>
      exact free.space member (Option.filter_eq_some_iff.mp lies).1
  | column member fieldMember =>
      exact free.column member fieldMember
  | index member indexMember given =>
      exact free.index member indexMember given
  | joinTable member owns =>
      exact free.join member owns (by simp [Relationship.joinNames])
  | backwardKey member owns =>
      exact free.join member owns (by simp [Relationship.joinNames])
  | forwardKey member owns =>
      exact free.join member owns (by simp [Relationship.joinNames])
  | derivedIndex known tableNamed columnsNamed ofTable ofColumns =>
      have kindsFree : ∀ kind ∈ ["idx", "uidx", "uid"], NoSemicolon kind := by
        decide
      exact noSemicolon_indexName (kindsFree _ known) ofTable ofColumns
  | derivedKey fromTableNamed fromColumnNamed toTableNamed toColumnNamed ofFromTable _ ofToTable =>
      exact noSemicolon_foreignKeyName ofFromTable ofToTable

/-- Names of the script have no semicolons when the model has none. -/
theorem names
    (free : model.WithoutSemicolons)
    {parts : List Part}
    (named : NamesAre model.ScriptName parts) :
    NamesAre NoSemicolon parts :=
  fun name inParts => free.scriptName (named name inParts)

end Model.WithoutSemicolons

namespace TableUnit

variable {model : Model} {database : Database} {target : Target} {entity owner : Entity}
  {field : Field} {relationship : Relationship}

/-! ## Columns -/

/-- What is said of a field is said by the field or by a relationship. -/
theorem mem_descriptions_of_describe?
    (fieldMember : field ∈ entity.fields)
    {text : String}
    (described : describe? entity field = some text) :
    text ∈ entity.descriptions := by
  rw [describe?, Option.or_eq_some_iff] at described
  simp only [Entity.descriptions, List.mem_append, List.mem_filterMap]
  rcases described with byRelationship | ⟨_, byField⟩
  · obtain ⟨relationship, owns, describes⟩ := Option.bind_eq_some_iff.mp byRelationship
    have listed := (Entity.mem_singleValued_of_relationshipFor? owns).1
    exact .inr ⟨relationship, (Entity.mem_singleValued.mp listed).1, describes⟩
  · exact .inl (.inr ⟨field, fieldMember, byField⟩)

/-- A default is shown without semicolons when the model has none. -/
theorem noSemicolon_shownDefault
    (free : model.WithoutSemicolons)
    (member : entity ∈ model.entities)
    (fieldMember : field ∈ entity.fields)
    {literal : String}
    (shown : shownDefault database field = .ok (some literal)) :
    NoSemicolon literal := by
  rcases defaultLiteral_cases (defaultLiteral_of_shownDefault shown) with
    plain | ⟨text, isText, rfl⟩ | isExpression
  · exact plain.noSemicolon
  · have mark : NoSemicolon "'" := by
      decide
    have textFree := free.default member fieldMember (by rw [Field.defaultText?, isText])
    simp [mark, noSemicolon_escapeLiteral textFree]
  · exact free.default member fieldMember (by rw [Field.defaultText?, isExpression])

/-- The words of a column have the semicolons of its default only. -/
theorem noSemicolon_words
    {sqlType : String}
    {notNull unique primaryKey : Bool}
    {literal? : Option String}
    (typeName : Database.TypeName sqlType)
    (ofLiteral : ∀ literal, literal? = some literal → NoSemicolon literal)
    {word : String}
    (member : word ∈ (ColumnBody.plain sqlType notNull unique primaryKey literal?).words) :
    NoSemicolon word := by
  rcases mem_words_plain member with rfl | isFixed | ⟨literal, isLiteral, rfl⟩
  · exact (plainText_of_typeName typeName).noSemicolon
  · have fixed : ∀ word ∈ ["NOT NULL", "UNIQUE", "PRIMARY KEY"], NoSemicolon word := by
      decide
    exact fixed word isFixed
  · have keyword : NoSemicolon "DEFAULT " :=
      noSemicolon_word rfl
    simp [keyword, ofLiteral literal isLiteral]

/-- A column takes over no semicolons from a model that has none. -/
theorem ColumnOf.textsFree
    (free : model.WithoutSemicolons)
    (member : entity ∈ model.entities)
    (fieldMember : field ∈ entity.fields)
    {column : Column}
    (columnOf : ColumnOf model database entity field column) :
    (∀ word ∈ column.body.words, NoSemicolon word) ∧ NoSemicolon column.comment := by
  constructor
  · intro word wordMember
    rcases columnBody_cases columnOf.body with
      ⟨clause, _, generated, body⟩ | ⟨sqlType, literal?, typed, shown, body⟩
    · rw [body, ColumnBody.words, List.mem_singleton] at wordMember
      rw [wordMember]
      exact (plainText_generatedKey generated).noSemicolon
    · rw [body] at wordMember
      refine noSemicolon_words (Model.typeName_of_columnType typed) ?_ wordMember
      rintro literal rfl
      exact noSemicolon_shownDefault free member fieldMember shown
  · rw [columnOf.comment]
    apply noSemicolon_addColumn?
    intro text described
    exact free.description member (mem_descriptions_of_describe? fieldMember described)

/-- A column of a join table takes over no texts with semicolons. -/
theorem StandsFor.textsFree
    {name : String}
    {side : JoinSide}
    {column : Column}
    (standsFor : StandsFor model database name relationship side column) :
    (∀ word ∈ column.body.words, NoSemicolon word) ∧ NoSemicolon column.comment := by
  obtain ⟨_, _, ⟨sqlType, typed, body⟩, _⟩ := standsFor.holdsKey
  constructor
  · intro word wordMember
    rw [body] at wordMember
    exact noSemicolon_words (Model.typeName_of_columnType typed) (by simp) wordMember
  · rw [standsFor.comment]
    exact noSemicolon_empty

/-! ## Statements -/

/-- A unit takes over no semicolons from a model that has none. -/
theorem UnitOf.textsFree
    (free : model.WithoutSemicolons)
    (wellFormed : entity.WellFormed)
    (member : entity ∈ model.entities)
    {unit : TableUnit (List Statement)}
    (unitOf : UnitOf model target.database entity unit)
    {statement : Statement}
    (inUnit : statement ∈ unit.body) :
    statement.TextsFree := by
  obtain ⟨table, indexes, tableOf, _, _, body⟩ := unitOf.table
  have ownDescription
      {text : String}
      (described : entity.description = some text) :
      NoSemicolon text :=
    free.description member (by simp [Entity.descriptions, described])
  rw [body] at inUnit
  simp only [List.mem_cons, List.mem_append, List.mem_map] at inUnit
  rcases inUnit with isTable | ⟨index, _, rfl⟩ | ⟨text, waits, rfl⟩
  · subst isTable
    constructor
    · intro column columnMember
      obtain ⟨field, fieldMember, columnOf⟩ :=
        exists_left_of_forall₂ tableOf.columns columnMember
      exact columnOf.textsFree free member fieldMember
    · rw [tableOf.comment]
      exact noSemicolon_addTable? fun _ => ownDescription
  · trivial
  · have idFree := free.names (namesAre_tableId member)
    rcases tableComments_cases wellFormed waits with
      ⟨field, fieldMember, said, described, rfl⟩ | ⟨said, described, rfl⟩
    · have saidFree :=
        free.description member (mem_descriptions_of_describe? fieldMember described)
      exact textsFree_columnStatement idFree (free.column member fieldMember) saidFree
    · exact textsFree_tableStatement idFree (ownDescription described)

/-- A join table takes over no semicolons from a model that has none. -/
theorem JoinOf.textsFree
    (free : model.WithoutSemicolons)
    (member : owner ∈ model.entities)
    (owns : relationship ∈ owner.manyToMany)
    {join : JoinTable (List Statement)}
    (joinOf : JoinOf model target.database owner relationship join)
    {statement : Statement}
    (inJoin : statement ∈ join.body) :
    statement.TextsFree := by
  obtain ⟨sameId, _, columns, _, columnsFound, body⟩ := joinOf
  have ownDescription
      {text : String}
      (described : relationship.description = some text) :
      NoSemicolon text := by
    apply free.description member
    have listed : relationship ∈ owner.relationships := List.mem_of_mem_filter owns
    have describes : text ∈ owner.relationships.filterMap (·.description) :=
      List.mem_filterMap.mpr ⟨relationship, listed, described⟩
    simp only [Entity.descriptions, List.mem_append, describes, or_true]
  rw [body, joinStatements_eq] at inJoin
  simp only [List.mem_cons, List.mem_append, List.mem_map] at inJoin
  rcases inJoin with isTable | ⟨index, _, rfl⟩ | ⟨text, waits, rfl⟩
  · subst isTable
    constructor
    · intro column columnMember
      obtain ⟨side, _, found⟩ := exists_left_of_forall₂ columnsFound columnMember
      exact (joinColumn_eq_ok_iff.mp found).textsFree
    · exact noSemicolon_addTable? fun _ => ownDescription
  · trivial
  · have idFree := free.names (namesAre_joinTableId member owns)
    rw [← sameId] at idFree
    obtain ⟨said, described, rfl⟩ := joinComments_cases waits
    exact textsFree_tableStatement idFree (ownDescription described)

end TableUnit

end SchemaScript
