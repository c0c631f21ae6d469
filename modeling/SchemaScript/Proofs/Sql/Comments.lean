import SchemaScript.Proofs.Sql.Quoting
import SchemaScript.Proofs.Sql.Writing

namespace SchemaScript.Sql

open Database

/-!
# Comments that wait

What waits in the comments of a table are statements that comment on the table
or on its columns, and what stands in definitions is neutral.  A comment on a
column tells the column, so that none is taken for one on another column.
-/

/-- A text comments on a table or on a column of it. -/
def CommentOn (database : Database) (table text : String) : Prop :=
  (∃ column said, text = CommentQueue.columnStatement database table column said) ∨
    ∃ said, text = CommentQueue.tableStatement database table said

/-- What is said in a statement's literal does not end the statement. -/
theorem BeginsStatement.isStatement_saying
    {text said : String}
    (begins : BeginsStatement text) :
    IsStatement (text ++ " IS '" ++ escapeLiteral said ++ "';") := by
  have characters :
      text ++ " IS '" ++ escapeLiteral said ++ "';" =
        text ++ " IS " ++ ("'" ++ escapeLiteral said ++ "'") ++ ";" := by
    apply String.toList_injective
    simp
  have is : Neutral " IS " := neutral_word rfl
  rw [characters]
  exact ((begins.append is).append neutral_literal).isStatement

/-- A comment on a table or a column is one statement. -/
theorem isStatement_of_commentOn
    {database : Database}
    (notMySQL : database ≠ .mySQL)
    (style : database.commentStyle = .statement)
    {id : TableId}
    {text : String}
    (comments : CommentOn database (database.quoteTable id) text) :
    IsStatement text := by
  have escaped
      (said : String) :
      database.escapeComment said = escapeLiteral said := by
    rw [escapeComment, style]
  rcases comments with ⟨column, said, rfl⟩ | ⟨said, rfl⟩
  · have comment : BeginsStatement "COMMENT ON COLUMN " :=
      ⟨⟨'C', _, rfl, rfl⟩, neutral_word rfl⟩
    have name : BeginsStatement ("COMMENT ON COLUMN " ++ database.quoteTable id ++ "." ++
        database.quote column) :=
      ((comment.append (neutral_quoteTable notMySQL)).append (neutral_word rfl)).append
        (neutral_quote notMySQL)
    unfold CommentQueue.columnStatement
    rw [escaped]
    exact name.isStatement_saying
  · have comment : BeginsStatement "COMMENT ON TABLE " :=
      ⟨⟨'C', _, rfl, rfl⟩, neutral_word rfl⟩
    unfold CommentQueue.tableStatement
    rw [escaped]
    exact (comment.append (neutral_quoteTable notMySQL)).isStatement_saying

namespace CommentQueue

/-- The comments that wait are on one table, in databases where they are statements. -/
structure WaitsOn (database : Database) (table : String) (queue : CommentQueue) : Prop where
  named : queue.table = table
  style : queue.style = database.commentStyle
  statements :
    ∀ text ∈ queue.statements,
      database.commentStyle = .statement ∧ CommentOn database table text

variable {database : Database} {table : String} {queue : CommentQueue}

/-- Nothing waits in a queue that has just begun. -/
theorem waitsOn_start :
    WaitsOn database table (start table database.commentStyle) where
  named := rfl
  style := rfl
  statements := by
    intro text member
    cases member

/-- A queue of comments on a table takes one more. -/
theorem WaitsOn.enqueue
    (waitsOn : WaitsOn database table queue)
    (style : database.commentStyle = .statement)
    {statement : String}
    (comments : CommentOn database table statement) :
    WaitsOn database table (queue.enqueue statement) := by
  rw [CommentQueue.enqueue]
  split
  · exact waitsOn
  · refine ⟨waitsOn.named, waitsOn.style, ?_⟩
    intro text member
    simp only [CommentQueue.statements, List.append_assoc, List.mem_append,
      List.mem_singleton] at member
    rcases member with isEarlier | isNew | isTable
    · exact waitsOn.statements text (List.mem_append_left _ isEarlier)
    · subst isNew
      exact ⟨style, comments⟩
    · exact waitsOn.statements text (List.mem_append_right _ isTable)

/-- A comment on a column is one on the table's column, whether it waits or not. -/
theorem WaitsOn.addColumn?
    (waitsOn : WaitsOn database table queue)
    {column : String}
    {said : Option String} :
    WaitsOn database table (queue.addColumn? database column said).1 := by
  cases said with
  | none =>
      exact waitsOn
  | some text =>
      simp only [CommentQueue.addColumn?]
      split
      · exact waitsOn
      · simp only [CommentQueue.addColumn, waitsOn.style]
        split
        · next style =>
            apply waitsOn.enqueue style
            rw [waitsOn.named]
            exact Or.inl ⟨column, text, rfl⟩
        · exact waitsOn
        · exact waitsOn

/-- Adding what is said of a table keeps a queue about this table. -/
theorem WaitsOn.addTable?
    (waitsOn : WaitsOn database table queue)
    {said : Option String} :
    WaitsOn database table (queue.addTable? database said).1 := by
  cases said with
  | none =>
      exact waitsOn
  | some text =>
      simp only [CommentQueue.addTable?]
      split
      · exact waitsOn
      · simp only [CommentQueue.addTable]
        split
        · next queueStyle =>
            have style := waitsOn.style.symm.trans queueStyle
            refine ⟨waitsOn.named, waitsOn.style, ?_⟩
            intro other member
            simp only [CommentQueue.statements, Option.toList_some, List.mem_append,
              List.mem_singleton] at member
            rcases member with isEarlier | isNew
            · exact waitsOn.statements other (List.mem_append_left _ isEarlier)
            · subst isNew
              rw [waitsOn.named]
              exact ⟨style, Or.inr ⟨text, rfl⟩⟩
        · exact waitsOn
        · exact waitsOn

/-! ## Comments on columns -/

/-- A statement that comments on a column of a table tells the column. -/
theorem columnStatement_inj
    {column other text otherText : String}
    (same :
      columnStatement database table column text =
        columnStatement database table other otherText) :
    column = other := by
  unfold columnStatement at same
  have characters := congrArg String.toList same
  simp only [String.toList_append, List.append_assoc] at characters
  have named :=
    List.append_cancel_left (List.append_cancel_left (List.append_cancel_left characters))
  have blankEnds
      (said : List Char) :
      (" IS '".toList ++ said).head? ≠ some database.quoteMark :=
    head?_ne_quoteMark (by decide : ' ' ≠ '"' ∧ ' ' ≠ '`')
  exact (quote_append_inj (blankEnds _) (blankEnds _) named).1

/-- A statement that does not wait yet waits last. -/
theorem enqueue_of_not_mem
    {statement : String}
    (new : statement ∉ queue.columnComments) :
    queue.enqueue statement =
      { queue with columnComments := queue.columnComments ++ [statement] } := by
  simp [enqueue, new]

/-! ## What stands in definitions -/

/-- Only MySQL writes comments into the definition. -/
theorem commentStyle_ne_clause
    (notMySQL : database ≠ .mySQL) :
    database.commentStyle ≠ .clause := by
  cases database with
  | mySQL => contradiction
  | postgreSQL => decide
  | sqlite => decide

/-- What a comment leaves in a column's definition does not end the statement. -/
theorem neutral_addColumn?
    (notMySQL : database ≠ .mySQL)
    (style : queue.style = database.commentStyle)
    {column : String}
    {said : Option String} :
    Neutral (queue.addColumn? database column said).2 := by
  cases said with
  | none =>
      exact neutral_empty
  | some text =>
      simp only [CommentQueue.addColumn?]
      split
      · exact neutral_empty
      · simp only [CommentQueue.addColumn, style]
        split
        · exact neutral_empty
        · next clause => exact absurd clause (commentStyle_ne_clause notMySQL)
        · next blocks => exact neutral_blockFragment blocks

/-- What a description adds to a definition is neutral. -/
theorem neutral_addTable?
    (notMySQL : database ≠ .mySQL)
    (style : queue.style = database.commentStyle)
    {said : Option String} :
    Neutral (queue.addTable? database said).2 := by
  cases said with
  | none =>
      exact neutral_empty
  | some text =>
      simp only [CommentQueue.addTable?]
      split
      · exact neutral_empty
      · simp only [CommentQueue.addTable, style]
        split
        · exact neutral_empty
        · next clause => exact absurd clause (commentStyle_ne_clause notMySQL)
        · next blocks => exact neutral_blockFragment blocks

end CommentQueue

end SchemaScript.Sql
