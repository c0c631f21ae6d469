import SchemaScript.Proofs.Sql.Comments
import SchemaScript.Proofs.TableUnit.IndexRequests

/-!
# Comments in any order

Comments on the columns of a table and on the table itself are taken in one by
one, in any order.  Where comments are statements, those on columns wait in the
order in which they are first made, each once, and the last one on the table
waits after them; nothing is left in definitions.  Elsewhere nothing waits, and
what each comment leaves in the definition is its own.
-/

namespace SchemaScript.Sql

/-- A comment on a column of a table, or on the table, in the words of a database. -/
inductive Remark where
  | onColumn (database : Database) (column text : String)
  | onTable (database : Database) (text : String)

namespace Remark

/-- The statement of a comment on a column. -/
def columnStatement? (table : String) : Remark → Option String
  | .onColumn database column text =>
      some (CommentQueue.columnStatement database table column text)
  | .onTable _ _ => none

/-- The statement of a comment on the table. -/
def tableStatement? (table : String) : Remark → Option String
  | .onColumn _ _ _ => none
  | .onTable database text => some (CommentQueue.tableStatement database table text)

/-- What is left in the definition of a column that a text is said of. -/
def columnFragment (style : CommentStyle) (database : Database) (text : String) : String :=
  match style with
  | .statement => ""
  | .clause => " COMMENT '" ++ database.escapeComment text ++ "'"
  | .block => " /* " ++ database.escapeComment text ++ " */"

/-- What is left in the definition of a table that a text is said of. -/
def tableFragment (style : CommentStyle) (database : Database) (text : String) : String :=
  match style with
  | .statement => ""
  | .clause => " COMMENT='" ++ database.escapeComment text ++ "'"
  | .block => " /* " ++ database.escapeComment text ++ " */"

/-- What a comment leaves in the definition. -/
def fragment (style : CommentStyle) : Remark → String
  | .onColumn database _ text => columnFragment style database text
  | .onTable database text => tableFragment style database text

end Remark

namespace CommentQueue

/-- Takes in a comment: what waits then, and what the comment leaves in the definition. -/
def add (queue : CommentQueue) : Remark → CommentQueue × String
  | .onColumn database column text => queue.addColumn database column text
  | .onTable database text => queue.addTable database text

/-- Takes in comments one by one: what waits in the end, and what each of them leaves. -/
def addAll (queue : CommentQueue) : List Remark → CommentQueue × List String
  | [] => (queue, [])
  | remark :: later =>
      let next := queue.add remark
      let last := next.1.addAll later
      (last.1, next.2 :: last.2)

variable {table : String} {style : CommentStyle} {queue : CommentQueue}
  {earlier remarks : List Remark} {remark : Remark}

/-- Remarks are added one after the other. -/
theorem addAll_cons :
    queue.addAll (remark :: remarks) =
      (((queue.add remark).1.addAll remarks).1,
        (queue.add remark).2 :: ((queue.add remark).1.addAll remarks).2) :=
  rfl

/-! ## Where comments are statements -/

/-- What waits after some comments, where comments are statements. -/
structure WaitsAfter (table : String) (remarks : List Remark) (queue : CommentQueue) : Prop where
  named : queue.table = table
  style : queue.style = .statement
  columns : queue.columnComments = (remarks.filterMap (·.columnStatement? table)).eraseDups
  last : queue.tableComment = (remarks.filterMap (·.tableStatement? table)).getLast?

/-- Nothing waits before the first remark. -/
theorem waitsAfter_start : WaitsAfter table [] (start table .statement) where
  named := rfl
  style := rfl
  columns := rfl
  last := rfl

/-- A statement waits last, unless it waits already. -/
theorem columnComments_enqueue
    {statement : String}
    {statements : List String}
    (waiting : queue.columnComments = statements.eraseDups) :
    (queue.enqueue statement).columnComments = (statements ++ [statement]).eraseDups := by
  rw [eraseDups_concat, enqueue]
  by_cases already : statement ∈ statements
  · simp [waiting, already]
  · simp [waiting, already]

/-- Comments that wait leave the rest of the queue alone. -/
theorem enqueue_frame
    {statement : String} :
    (queue.enqueue statement).table = queue.table ∧
      (queue.enqueue statement).style = queue.style ∧
      (queue.enqueue statement).tableComment = queue.tableComment := by
  rw [enqueue]
  split <;> exact ⟨rfl, rfl, rfl⟩

/-- One more comment waits as the comments before it did, and leaves nothing. -/
theorem WaitsAfter.add
    (waits : WaitsAfter table earlier queue)
    (remark : Remark) :
    WaitsAfter table (earlier ++ [remark]) (queue.add remark).1 ∧ (queue.add remark).2 = "" := by
  cases remark with
  | onColumn database column text =>
      simp only [CommentQueue.add, addColumn, waits.style, waits.named, and_true]
      obtain ⟨sameTable, sameStyle, sameComment⟩ :=
        @enqueue_frame queue (columnStatement database table column text)
      exact {
        named := sameTable.trans waits.named
        style := sameStyle.trans waits.style
        columns := by
          rw [List.filterMap_append]
          exact columnComments_enqueue waits.columns
        last := by
          rw [sameComment, waits.last, List.filterMap_append]
          simp [Remark.tableStatement?] }
  | onTable database text =>
      simp only [CommentQueue.add, addTable, waits.style, waits.named, and_true]
      exact {
        named := rfl
        style := rfl
        columns := by
          rw [List.filterMap_append]
          simp [Remark.columnStatement?, waits.columns]
        last := by
          rw [List.filterMap_append]
          simp [Remark.tableStatement?] }

/-- Comments wait as those before them did, however many there are. -/
theorem WaitsAfter.addAll
    (waits : WaitsAfter table earlier queue) :
    WaitsAfter table (earlier ++ remarks) (queue.addAll remarks).1 ∧
      (queue.addAll remarks).2 = remarks.map fun _ => "" := by
  induction remarks generalizing earlier queue with
  | nil =>
      rw [List.append_nil]
      exact ⟨waits, rfl⟩
  | cons remark later inductionHypothesis =>
      obtain ⟨waitsNext, leftNothing⟩ := waits.add remark
      obtain ⟨waitsLast, leftLater⟩ := inductionHypothesis waitsNext
      rw [List.append_assoc] at waitsLast
      rw [addAll_cons, List.map_cons, leftNothing, leftLater]
      exact ⟨waitsLast, rfl⟩

/-! ## Where comments stand in definitions -/

/-- A comment that stands in a definition leaves the queue alone. -/
theorem add_of_ne_statement
    (inDefinition : queue.style ≠ .statement) :
    queue.add remark = (queue, remark.fragment queue.style) := by
  obtain ⟨table, style, columnComments, tableComment⟩ := queue
  cases style with
  | statement => contradiction
  | clause => cases remark <;> rfl
  | block => cases remark <;> rfl

/-- Where comments are no statements, every remark becomes a fragment and nothing waits. -/
theorem addAll_of_ne_statement
    (inDefinition : queue.style ≠ .statement) :
    queue.addAll remarks = (queue, remarks.map (·.fragment queue.style)) := by
  induction remarks with
  | nil =>
      rfl
  | cons remark later inductionHypothesis =>
      simp only [addAll_cons, add_of_ne_statement inDefinition, inductionHypothesis, List.map_cons]

/-- Where comments are no statements, no fragment is empty. -/
theorem fragment_ne_empty
    (inDefinition : style ≠ .statement) :
    remark.fragment style ≠ "" := by
  intro isEmpty
  have characters := congrArg String.toList isEmpty
  revert characters
  cases style with
  | statement => contradiction
  | clause => cases remark <;> simp [Remark.fragment, Remark.columnFragment, Remark.tableFragment]
  | block => cases remark <;> simp [Remark.fragment, Remark.columnFragment, Remark.tableFragment]

/-! ## All styles -/

/--
Comments are taken in by an empty queue, on columns and on the table in any order.
Where they are statements, the statements on columns wait where they are first
made, each once, then waits the last one on the table, if there is one, and no
comment leaves anything in a definition.  In every other style nothing waits, and
each comment leaves words that depend on what it says and on whether it is on a
column, and on no other comment.
-/
theorem statements_addAll
    (table : String)
    (remarks : List Remark) :
    (∃ columns,
        FirstOccurrences (remarks.filterMap (·.columnStatement? table)) columns ∧
          ((start table .statement).addAll remarks).1.statements =
            columns ++ (remarks.filterMap (·.tableStatement? table)).getLast?.toList) ∧
      ((start table .statement).addAll remarks).2 = remarks.map (fun _ => "") ∧
      ∀ style, style ≠ .statement →
        ((start table style).addAll remarks).1.statements = [] ∧
          ((start table style).addAll remarks).2 = remarks.map (·.fragment style) ∧
          ∀ remark ∈ remarks, remark.fragment style ≠ "" := by
  have begun : WaitsAfter table [] (start table .statement) := waitsAfter_start
  obtain ⟨waits, leftNothing⟩ := @WaitsAfter.addAll _ _ _ remarks begun
  rw [List.nil_append] at waits
  refine ⟨⟨_, firstOccurrences_iff.mpr rfl, ?_⟩, leftNothing, ?_⟩
  · rw [statements, waits.columns, waits.last]
  · intro style inDefinition
    have unchanged :
        (start table style).addAll remarks =
          (start table style, remarks.map (·.fragment style)) :=
      addAll_of_ne_statement inDefinition
    rw [unchanged]
    exact ⟨rfl, rfl, fun _ _ => fragment_ne_empty inDefinition⟩

/-- Two comments on teams, and three on their columns, two of which are the same. -/
def teamRemarks (database : Database) : List Remark :=
  [.onTable database "What's up", .onColumn database "coach" "it's */",
    .onColumn database "name" "Team name", .onTable database "Teams",
    .onColumn database "coach" "it's */"]

/-- The comments of a team are collected once each as statements, and given in place as blocks. -/
theorem statements_addAll_teamRemarks :
    ((start "team" .statement).addAll (teamRemarks .postgreSQL)).1.statements =
        ["COMMENT ON COLUMN team.\"coach\" IS 'it''s */';",
          "COMMENT ON COLUMN team.\"name\" IS 'Team name';", "COMMENT ON TABLE team IS 'Teams';"] ∧
      ((start "team" .statement).addAll (teamRemarks .postgreSQL)).2 = ["", "", "", "", ""] ∧
      CommentStyle.block ≠ .statement ∧
      ((start "team" .block).addAll (teamRemarks .sqlite)).1.statements = [] ∧
      ((start "team" .block).addAll (teamRemarks .sqlite)).2 =
        [" /* What''s up */", " /* it''s * / */", " /* Team name */", " /* Teams */",
          " /* it''s * / */"] := by
  obtain ⟨⟨columns, occurrences, statements⟩, leftNothing, _⟩ :=
    statements_addAll "team" (teamRemarks .postgreSQL)
  obtain ⟨_, _, inDefinitions⟩ := statements_addAll "team" (teamRemarks .sqlite)
  obtain ⟨nothingWaits, fragments, _⟩ := inDefinitions .block (by decide)
  refine ⟨?_, leftNothing, by decide, nothingWaits, fragments.trans ?_⟩
  · rw [statements, firstOccurrences_iff.mp occurrences]
    decide +kernel
  · decide +kernel

end CommentQueue

end SchemaScript.Sql
