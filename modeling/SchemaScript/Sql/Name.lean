import SchemaScript.Text.Digest

namespace SchemaScript.Sql

/-!
# Derived names of constraints and indexes

Derived names begin with what they are about and end in a digest of all of it,
so that they are short, do not change from one script to the next, and differ
when what they are about differs.
-/

/-- The first characters of a text. -/
def leading (count : Nat) (text : String) : String :=
  String.ofList (text.toList.take count)

/-- The text whose digest a name ends in. -/
def digestInput (parts : List String) : String :=
  ";".intercalate parts

/-- The first characters of the digest of some parts. -/
def shortDigest (length : Nat) (parts : List String) : String :=
  leading length (Text.digest (digestInput parts))

/-- The name of an index or unique constraint over columns of a table. -/
def indexName (kind table : String) (columns : List String) : String :=
  "_".intercalate [
    kind,
    leading 11 table,
    leading 7 (columns.headD ""),
    shortDigest 6 (table :: columns)]

/-- The name of a foreign key. -/
def foreignKeyName (fromTable fromColumn toTable toColumn : String) : String :=
  "_".intercalate [
    "fk",
    leading 8 fromTable,
    leading 8 toTable,
    shortDigest 8 [fromTable, fromColumn, toTable, toColumn]]

end SchemaScript.Sql
