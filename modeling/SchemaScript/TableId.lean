namespace SchemaScript

/-!
# Table identities

A table is known by its name and the namespace it lies in, if any.  Tables
without a namespace come first; otherwise namespaces and then names are
compared character by character.
-/

/-- A table's namespace, if it has one, and its name. -/
structure TableId where
  namespaceName? : Option String
  table : String
  deriving DecidableEq, Repr

namespace TableId

/-- A table in a namespace; the empty namespace is none. -/
def within (namespaceName? : Option String) (table : String) : TableId where
  namespaceName? := namespaceName?.filter fun name => !name.isEmpty
  table := table

/-- A table without a namespace. -/
def unqualified (table : String) : TableId where
  namespaceName? := none
  table := table

/-- The identity in words: namespace and name with a point between them. -/
def display (id : TableId) : String :=
  match id.namespaceName? with
  | some name => name ++ "." ++ id.table
  | none => id.table

/-- Compares texts character by character. -/
def compareText (left right : String) : Ordering :=
  if left < right then .lt else if left = right then .eq else .gt

/-- Compares tables: no namespace first, then namespaces, then names. -/
def compare (left right : TableId) : Ordering :=
  match left.namespaceName?, right.namespaceName? with
  | none, none => compareText left.table right.table
  | none, some _ => .lt
  | some _, none => .gt
  | some leftName, some rightName =>
      (compareText leftName rightName).then (compareText left.table right.table)

/-- Puts tables in order. -/
def sort (ids : List TableId) : List TableId :=
  ids.mergeSort fun left right => left.compare right != .gt

/-- Puts a table into an ascending list that holds each table once. -/
def insert (id : TableId) : List TableId → List TableId
  | [] => [id]
  | first :: rest =>
      match id.compare first with
      | .lt => id :: first :: rest
      | .eq => first :: rest
      | .gt => first :: insert id rest

end TableId

end SchemaScript
