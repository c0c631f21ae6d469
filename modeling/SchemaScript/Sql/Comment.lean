import SchemaScript.Dialect

namespace SchemaScript.Sql

/-!
# Comments

The comments of one table are gathered while the table is put together.
Depending on the style, a comment is a fragment at its place in the table's
definition, or a statement that waits until the definition is complete.
-/

/-- The comments of one table that wait for its definition. -/
structure CommentQueue where
  /-- The table, as statements name it. -/
  table : String
  style : CommentStyle
  columnComments : List String
  tableComment : Option String
  deriving DecidableEq, Repr

namespace CommentQueue

/-- No comments yet. -/
def start (table : String) (style : CommentStyle) : CommentQueue where
  table := table
  style := style
  columnComments := []
  tableComment := none

/-- The statement that comments on a column. -/
def columnStatement (database : Database) (table column text : String) : String :=
  "COMMENT ON COLUMN " ++ table ++ "." ++ database.quote column ++ " IS '" ++
    database.escapeComment text ++ "';"

/-- The statement that comments on a table. -/
def tableStatement (database : Database) (table text : String) : String :=
  "COMMENT ON TABLE " ++ table ++ " IS '" ++ database.escapeComment text ++ "';"

/-- A comment as a block. -/
def blockFragment (database : Database) (text : String) : String :=
  " /* " ++ database.escapeComment text ++ " */"

/-- Adds a statement for a column, unless the same one waits already. -/
def enqueue (queue : CommentQueue) (statement : String) : CommentQueue :=
  if queue.columnComments.contains statement then
    queue
  else
    { queue with columnComments := queue.columnComments ++ [statement] }

/-- Comments on a column: what waits then, and what stands in the definition. -/
def addColumn (queue : CommentQueue) (database : Database) (column text : String) :
    CommentQueue × String :=
  match queue.style with
  | .statement => (queue.enqueue (columnStatement database queue.table column text), "")
  | .clause => (queue, " COMMENT '" ++ database.escapeComment text ++ "'")
  | .block => (queue, blockFragment database text)

/-- Comments on the table: what waits then, and what stands in the definition. -/
def addTable (queue : CommentQueue) (database : Database) (text : String) :
    CommentQueue × String :=
  match queue.style with
  | .statement =>
      ({ queue with tableComment := some (tableStatement database queue.table text) }, "")
  | .clause => (queue, " COMMENT='" ++ database.escapeComment text ++ "'")
  | .block => (queue, blockFragment database text)

/-- The statements that wait: those for columns, then that for the table. -/
def statements (queue : CommentQueue) : List String :=
  queue.columnComments ++ queue.tableComment.toList

/-- Comments on a column if there is something to say. -/
def addColumn? (queue : CommentQueue) (database : Database) (column : String) :
    Option String → CommentQueue × String
  | some text => if text.isEmpty then (queue, "") else queue.addColumn database column text
  | none => (queue, "")

/-- Comments on the table if there is something to say. -/
def addTable? (queue : CommentQueue) (database : Database) :
    Option String → CommentQueue × String
  | some text => if text.isEmpty then (queue, "") else queue.addTable database text
  | none => (queue, "")

end CommentQueue

end SchemaScript.Sql
