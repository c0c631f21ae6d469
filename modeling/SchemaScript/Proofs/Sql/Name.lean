import SchemaScript.Sql.Name

/-!
# What derived names tell

A derived name ends in the first digits of a digest, which are there for every
text, so that names which are the same end in the same digits.  The text under
the digest tells the pieces that its parts fall into at their semicolons, and so
it tells the parts as long as none of them holds one.
-/

namespace SchemaScript.Sql

/-! ## Digests -/

/-- A digest has 64 digits. -/
theorem length_digest
    {text : String} :
    (Text.digest text).toList.length = 64 := by
  simp [Text.digest, Text.Digest.ofBytes, Text.Digest.Chain.toList, Text.Digest.hexWord]

/-- The first digits of a digest are as many as asked for. -/
theorem length_shortDigest
    {length : Nat}
    {parts : List String}
    (enough : length ≤ 64) :
    (shortDigest length parts).toList.length = length := by
  simp only [shortDigest, leading, String.toList_ofList, List.length_take, length_digest]
  omega

/-- Texts that are the same end in the same digits. -/
theorem shortDigest_eq_of_append_eq
    {length : Nat}
    {words others : String}
    {parts otherParts : List String}
    (enough : length ≤ 64)
    (same : words ++ shortDigest length parts = others ++ shortDigest length otherParts) :
    shortDigest length parts = shortDigest length otherParts := by
  have characters := congrArg String.toList same
  rw [String.toList_append, String.toList_append] at characters
  apply String.toList_injective
  apply List.append_inj_right' characters
  rw [length_shortDigest enough, length_shortDigest enough]

/-! ## What is under a digest -/

/-- Names cut at their semicolons, one after another. -/
def pieces (names : List String) : List (List Char) :=
  names.flatMap fun name => name.toList.splitOn ';'

/-- The text under a digest, cut at its semicolons, is the pieces of its parts. -/
theorem splitOn_digestInput
    {parts : List String}
    (notEmpty : parts ≠ []) :
    (digestInput parts).toList.splitOn ';' = pieces parts := by
  induction parts with
  | nil =>
      contradiction
  | cons first later inductionHypothesis =>
      cases later with
      | nil =>
          simp [digestInput, pieces]
      | cons second rest =>
          have joined :
              (digestInput (first :: second :: rest)).toList =
                first.toList ++ ';' :: (digestInput (second :: rest)).toList := by
            simp [digestInput, String.intercalate_cons_cons]
          rw [joined, List.splitOn_append_cons_self, inductionHypothesis (List.cons_ne_nil _ _)]
          rfl

/-- Parts have the same text under their digests when they fall into the same pieces. -/
theorem digestInput_eq_iff
    {parts others : List String}
    (notEmpty : parts ≠ [])
    (othersNotEmpty : others ≠ []) :
    digestInput parts = digestInput others ↔ pieces parts = pieces others := by
  rw [← splitOn_digestInput notEmpty, ← splitOn_digestInput othersNotEmpty]
  constructor
  · intro same
    rw [same]
  · intro same
    have joined := congrArg [';'].intercalate same
    rw [List.intercalate_splitOn, List.intercalate_splitOn] at joined
    exact String.toList_injective joined

/-- Names without semicolons are not cut. -/
theorem pieces_of_plain
    {names : List String}
    (plain : ∀ name ∈ names, ';' ∉ name.toList) :
    pieces names = names.map String.toList := by
  induction names with
  | nil =>
      rfl
  | cons name later inductionHypothesis =>
      obtain ⟨namePlain, laterPlain⟩ := List.forall_mem_cons.mp plain
      rw [pieces, List.flatMap_cons, List.splitOn_eq_singleton namePlain, ← pieces,
        inductionHypothesis laterPlain]
      rfl

/-- Parts without semicolons are told by the text under their digest. -/
theorem digestInput_inj
    {parts others : List String}
    (notEmpty : parts ≠ [])
    (othersNotEmpty : others ≠ [])
    (plain : ∀ part ∈ parts, ';' ∉ part.toList)
    (othersPlain : ∀ part ∈ others, ';' ∉ part.toList)
    (same : digestInput parts = digestInput others) :
    parts = others := by
  rw [digestInput_eq_iff notEmpty othersNotEmpty, pieces_of_plain plain,
    pieces_of_plain othersPlain] at same
  exact (List.map_inj_right fun _ _ => String.toList_injective).mp same

/-! ## Names of indexes -/

/-- A derived name is a kind, words for a reader, and the first digits of a digest. -/
theorem indexName_eq
    {kind table : String}
    {columns : List String} :
    indexName kind table columns =
      kind ++ ("_" ++ (leading 11 table ++ ("_" ++ (leading 7 (columns.headD "") ++ "_")))) ++
        shortDigest 6 (table :: columns) := by
  simp [indexName, String.append_assoc]

/-- The kind of an index is told by the first letter of a derived name. -/
theorem eq_of_indexName_kind_eq
    {unique otherUnique : Bool}
    {table otherTable : String}
    {columns otherColumns : List String}
    (same :
      indexName (if unique then "uidx" else "idx") table columns =
        indexName (if otherUnique then "uidx" else "idx") otherTable otherColumns) :
    unique = otherUnique := by
  have firstLetters := congrArg (fun name => name.toList.head?) same
  revert firstLetters
  simp only [indexName_eq, String.append_assoc]
  cases unique <;> cases otherUnique <;> simp

/-- Names that are the same end in the same digits. -/
theorem shortDigest_eq_of_indexName_eq
    {kind otherKind table otherTable : String}
    {columns otherColumns : List String}
    (same : indexName kind table columns = indexName otherKind otherTable otherColumns) :
    shortDigest 6 (table :: columns) = shortDigest 6 (otherTable :: otherColumns) := by
  rw [indexName_eq, indexName_eq] at same
  exact shortDigest_eq_of_append_eq (by decide) same

/-! ## Names of foreign keys -/

/-- The name of a foreign key is its kind, words for a reader, and the first digits of a digest. -/
theorem foreignKeyName_eq
    {fromTable fromColumn toTable toColumn : String} :
    foreignKeyName fromTable fromColumn toTable toColumn =
      "fk_" ++ (leading 8 fromTable ++ ("_" ++ (leading 8 toTable ++ "_"))) ++
        shortDigest 8 [fromTable, fromColumn, toTable, toColumn] := by
  simp [foreignKeyName, String.append_assoc]

/-- Foreign keys whose names are the same end in the same digits. -/
theorem shortDigest_eq_of_foreignKeyName_eq
    {fromTable fromColumn toTable toColumn : String}
    {otherTable otherColumn otherToTable otherToColumn : String}
    (same :
      foreignKeyName fromTable fromColumn toTable toColumn =
        foreignKeyName otherTable otherColumn otherToTable otherToColumn) :
    shortDigest 8 [fromTable, fromColumn, toTable, toColumn] =
      shortDigest 8 [otherTable, otherColumn, otherToTable, otherToColumn] := by
  rw [foreignKeyName_eq, foreignKeyName_eq] at same
  exact shortDigest_eq_of_append_eq (by decide) same

/-- No unique constraint has the name of a foreign key. -/
theorem indexName_ne_foreignKeyName
    {table fromTable fromColumn toTable toColumn : String}
    {columns : List String} :
    indexName "uid" table columns ≠ foreignKeyName fromTable fromColumn toTable toColumn := by
  intro same
  have firstLetters := congrArg (fun name => name.toList.head?) same
  revert firstLetters
  simp [indexName_eq, foreignKeyName_eq, String.append_assoc]

end SchemaScript.Sql
