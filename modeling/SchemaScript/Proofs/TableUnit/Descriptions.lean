import SchemaScript.Proofs.Sql.Comments
import SchemaScript.Proofs.TableUnit.Blocks

/-!
# Descriptions in comments

In databases where comments are statements, the comments of a table are those
on its columns, in their order, and then that on the table.  A column is
commented on with the description of the relationship that owns it, if there is
one, and else with that of the field.  A description that is empty counts as
one here, although nothing is said then: it silences the description of the
field.
-/

namespace SchemaScript.TableUnit

open Sql

/-! ## What is said -/

/-- A text that says something. -/
def said? (text? : Option String) : Option String :=
  text?.filter fun text => !text.isEmpty

/-- What the comment on a field's column says, if there is one. -/
def commented? (entity : Entity) (field : Field) : Option String :=
  said? (describe? entity field)

/-- What there is to say of a field: what its relationship says, or else what it says itself. -/
def toSay? (entity : Entity) (field : Field) : Option String :=
  (said? ((entity.relationshipFor? field).bind (·.description))).or (said? field.description)

/-- The empty description of a relationship takes the place of what a field says itself. -/
structure Silenced (entity : Entity) (field : Field) : Prop where
  ofRelationship :
    ∃ relationship, entity.relationshipFor? field = some relationship ∧
      relationship.description = some ""
  ofField : ∃ text, field.description = some text ∧ text ≠ ""

variable {database : Database} {entity : Entity} {field : Field}

/-- Something is said exactly where a text is given and not empty. -/
theorem said?_eq_some_iff
    {text? : Option String}
    {text : String} :
    said? text? = some text ↔ text? = some text ∧ text ≠ "" := by
  simp [said?]

@[simp] theorem said?_none : said? none = none := rfl

@[simp] theorem said?_empty : said? (some "") = none := rfl

theorem said?_of_ne_empty
    {text : String}
    (given : text ≠ "") :
    said? (some text) = some text :=
  said?_eq_some_iff.mpr ⟨rfl, given⟩

/-- What is to be said is said unless it is silenced. -/
theorem commented?_eq_toSay?_iff :
    commented? entity field = toSay? entity field ↔ ¬ Silenced entity field := by
  rw [commented?, toSay?, describe?]
  cases above : (entity.relationshipFor? field).bind (·.description) with
  | none =>
      have notSilenced : ¬ Silenced entity field := by
        rintro ⟨⟨relationship, owns, describes⟩, _⟩
        rw [owns, Option.bind_some, describes] at above
        cases above
      simp [notSilenced]
  | some text =>
      obtain ⟨relationship, owns, describes⟩ := Option.bind_eq_some_iff.mp above
      by_cases isEmpty : text = ""
      · subst isEmpty
        have silenced_iff : Silenced entity field ↔ ∃ text, said? field.description = some text := by
          simp only [said?_eq_some_iff]
          constructor
          · intro silenced
            exact silenced.ofField
          · intro describesItself
            exact ⟨⟨relationship, owns, describes⟩, describesItself⟩
        rw [silenced_iff, Option.some_or, said?_empty, Option.none_or, eq_comm,
          Option.eq_none_iff_forall_ne_some, not_exists]
      · have notSilenced : ¬ Silenced entity field := by
          rintro ⟨⟨other, otherOwns, otherDescribes⟩, _⟩
          rw [otherOwns, Option.bind_some, otherDescribes, Option.some.injEq] at above
          exact isEmpty above.symm
        simp [notSilenced, said?_of_ne_empty isEmpty]

/-- There is something to say of a field that describes itself. -/
theorem exists_toSay?
    {own : String}
    (describes : field.description = some own)
    (given : own ≠ "") :
    ∃ text, toSay? entity field = some text := by
  rw [toSay?, describes, said?_of_ne_empty given]
  cases said? ((entity.relationshipFor? field).bind (·.description)) with
  | none =>
      exact ⟨own, rfl⟩
  | some text =>
      exact ⟨text, rfl⟩

/-! ## Comments on columns -/

/-- The comment on the column of a field, if a text is given for it. -/
def columnComment? (database : Database) (table : String) (text? : Field → Option String)
    (field : Field) : Option String :=
  (text? field).map (CommentQueue.columnStatement database table field.columnName)

/-- Comments on the columns of an entity's table, one for each field that has a text. -/
def columnComments (database : Database) (entity : Entity) (text? : Field → Option String) :
    List String :=
  entity.fields.filterMap (columnComment? database (database.quoteTable entity.tableId) text?)

/-- One of some comments is on the column of a field. -/
def CommentsOn (database : Database) (entity : Entity) (field : Field) (comments : List String) :
    Prop :=
  ∃ text,
    CommentQueue.columnStatement database (database.quoteTable entity.tableId)
      field.columnName text ∈ comments

/-- The comment on the table of an entity, if the entity is described. -/
def tableComment? (database : Database) (entity : Entity) : Option String :=
  (said? entity.description).map
    (CommentQueue.tableStatement database (database.quoteTable entity.tableId))

/-- Where comments are statements, a comment on a column waits if it says something. -/
theorem addColumn?_of_statement
    {queue : CommentQueue}
    (style : queue.style = .statement)
    {column : String}
    {text? : Option String} :
    (queue.addColumn? database column text?).1 =
      match said? text? with
      | some text => queue.enqueue (CommentQueue.columnStatement database queue.table column text)
      | none => queue := by
  cases text? with
  | none =>
      rfl
  | some text =>
      by_cases isEmpty : text = ""
      · subst isEmpty
        rfl
      · simp [CommentQueue.addColumn?, CommentQueue.addColumn, said?_of_ne_empty isEmpty,
          isEmpty, style]

/-- Where comments are statements, that on the table waits if it says something. -/
theorem addTable?_of_statement
    {queue : CommentQueue}
    (style : queue.style = .statement)
    (noneYet : queue.tableComment = none)
    {text? : Option String} :
    (queue.addTable? database text?).1.statements =
      queue.columnComments ++
        ((said? text?).map (CommentQueue.tableStatement database queue.table)).toList := by
  cases text? with
  | none =>
      simp [CommentQueue.addTable?, CommentQueue.statements, noneYet]
  | some text =>
      by_cases isEmpty : text = ""
      · subst isEmpty
        simp [CommentQueue.addTable?, CommentQueue.statements, noneYet]
      · simp [CommentQueue.addTable?, CommentQueue.addTable, CommentQueue.statements,
          said?_of_ne_empty isEmpty, isEmpty, style]

/-- Comments on distinct columns wait one after another. -/
theorem queueColumns_of_statement
    {queue : CommentQueue}
    (style : queue.style = .statement)
    {fields : List Field}
    (distinct : (fields.map (·.columnName)).Nodup)
    (new :
      ∀ field ∈ fields, ∀ text,
        CommentQueue.columnStatement database queue.table field.columnName text ∉
          queue.columnComments) :
    queueColumns database entity queue fields =
      { queue with
        columnComments :=
          queue.columnComments ++
            fields.filterMap (columnComment? database queue.table (commented? entity)) } := by
  induction fields generalizing queue with
  | nil =>
      simp [queueColumns]
  | cons field later inductionHypothesis =>
      obtain ⟨fieldNew, laterNew⟩ := List.forall_mem_cons.mp new
      rw [List.map_cons, List.nodup_cons] at distinct
      obtain ⟨apart, laterDistinct⟩ := distinct
      have first :
          (queue.addColumn? database field.columnName (describe? entity field)).1 =
            match commented? entity field with
            | some text =>
                queue.enqueue
                  (CommentQueue.columnStatement database queue.table field.columnName text)
            | none => queue :=
        addColumn?_of_statement style
      rw [queueColumns, List.foldl_cons, first, ← queueColumns, List.filterMap_cons]
      cases said : commented? entity field with
      | none =>
          rw [inductionHypothesis style laterDistinct laterNew]
          simp [columnComment?, said]
      | some text =>
          simp only [CommentQueue.enqueue_of_not_mem (fieldNew text)]
          refine (inductionHypothesis ?_ laterDistinct ?_).trans ?_
          · exact style
          · -- the comment that waits now is on another column than those of later fields
            intro other member otherText waits
            rcases List.mem_append.mp waits with waitsAlready | isNew
            · exact laterNew other member otherText waitsAlready
            · have sameColumn :=
                CommentQueue.columnStatement_inj (List.mem_singleton.mp isNew)
              exact apart (sameColumn ▸ List.mem_map_of_mem member)
          · simp [columnComment?, said]

/-- A comment on a join table says what the relationship says of itself. -/
theorem joinComments_cases
    {id : TableId}
    {relationship : Relationship}
    {text : String}
    (waits : text ∈ (joinComments database id relationship).1.statements) :
    ∃ said, relationship.description = some said ∧
      text = CommentQueue.tableStatement database (database.quoteTable id) said := by
  have style := (waitsOn_joinComments.statements text waits).1
  rw [joinComments, addTable?_of_statement style rfl] at waits
  obtain ⟨said, isSaid, rfl⟩ := Option.map_eq_some_iff.mp (Option.mem_toList.mp waits)
  exact ⟨said, (said?_eq_some_iff.mp isSaid).1, rfl⟩

section WellFormed

variable (wellFormed : entity.WellFormed)

include wellFormed

/-- The comments of a table are those on its columns, one for each, and then that on the table. -/
theorem tableComments_of_statement
    (style : database.commentStyle = .statement) :
    (tableComments database entity).1.statements =
      columnComments database entity (commented? entity) ++
        (tableComment? database entity).toList := by
  have queued :
      queueColumns database entity (noComments database entity.tableId) entity.fields =
        { noComments database entity.tableId with
          columnComments := columnComments database entity (commented? entity) } :=
    queueColumns_of_statement style wellFormed.columnNamesDistinct fun _ _ _ => List.not_mem_nil
  rw [tableComments, queued]
  exact addTable?_of_statement style rfl

/-- A comment that waits says what is said of a field, or what the entity says of itself. -/
theorem tableComments_cases
    {text : String}
    (waits : text ∈ (tableComments database entity).1.statements) :
    (∃ field ∈ entity.fields, ∃ said, describe? entity field = some said ∧
        text =
          CommentQueue.columnStatement database (database.quoteTable entity.tableId)
            field.columnName said) ∨
      ∃ said, entity.description = some said ∧
        text =
          CommentQueue.tableStatement database (database.quoteTable entity.tableId) said := by
  have style := (waitsOn_tableComments.statements text waits).1
  rw [tableComments_of_statement wellFormed style, List.mem_append] at waits
  rcases waits with onColumn | onTable
  · obtain ⟨field, member, comments⟩ := List.mem_filterMap.mp onColumn
    obtain ⟨said, isSaid, rfl⟩ := Option.map_eq_some_iff.mp comments
    exact .inl ⟨field, member, said, (said?_eq_some_iff.mp isSaid).1, rfl⟩
  · obtain ⟨said, isSaid, rfl⟩ := Option.map_eq_some_iff.mp (Option.mem_toList.mp onTable)
    exact .inr ⟨said, (said?_eq_some_iff.mp isSaid).1, rfl⟩

/-- A column is commented on when there is a text for its field. -/
theorem commentsOn_columnComments_iff
    {text? : Field → Option String}
    (member : field ∈ entity.fields) :
    CommentsOn database entity field (columnComments database entity text?) ↔
      ∃ text, text? field = some text := by
  simp only [CommentsOn, columnComments, List.mem_filterMap, columnComment?, Option.map_eq_some_iff]
  constructor
  · rintro ⟨_, other, otherMember, text, given, same⟩
    have sameColumn := CommentQueue.columnStatement_inj same
    have sameField : other = field :=
      wellFormed.eq_of_columnName_eq otherMember member sameColumn
    subst sameField
    exact ⟨text, given⟩
  · rintro ⟨text, given⟩
    exact ⟨text, field, member, text, given, rfl⟩

/-- A field that describes itself has its column commented on unless it is silenced. -/
theorem commentsOn_commented_iff
    (member : field ∈ entity.fields)
    {own : String}
    (describes : field.description = some own)
    (given : own ≠ "") :
    CommentsOn database entity field (columnComments database entity (commented? entity)) ↔
      ¬ Silenced entity field := by
  rw [commentsOn_columnComments_iff wellFormed member]
  constructor
  · rintro ⟨text, said⟩ ⟨⟨relationship, owns, isEmpty⟩, _⟩
    rw [commented?, describe?, owns, Option.bind_some, isEmpty] at said
    cases said
  · intro notSilenced
    rw [commented?_eq_toSay?_iff.mpr notSilenced]
    exact exists_toSay? describes given

/-- All that there is to say of columns is said when no field is silenced. -/
theorem columnComments_eq_iff :
    columnComments database entity (commented? entity) =
        columnComments database entity (toSay? entity) ↔
      ∀ field ∈ entity.fields, ¬ Silenced entity field := by
  constructor
  · intro same field member silenced
    obtain ⟨own, describes, given⟩ := silenced.ofField
    have commentsOn :
        CommentsOn database entity field
          (columnComments database entity (commented? entity)) := by
      rw [same, commentsOn_columnComments_iff wellFormed member]
      exact exists_toSay? describes given
    exact (commentsOn_commented_iff wellFormed member describes given).mp commentsOn silenced
  · intro noneSilenced
    apply List.filterMap_congr
    intro field member
    rw [columnComment?, columnComment?, commented?_eq_toSay?_iff.mpr (noneSilenced field member)]

end WellFormed

end SchemaScript.TableUnit
