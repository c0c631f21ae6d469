import SchemaScript.Model.Validation
import SchemaScript.Proofs.Sql.Name
import SchemaScript.Proofs.Sql.Semicolons

/-!
# What the digests in names tell

The text under the digest of a name holds the names of a table and of columns,
separated by semicolons.  It tells these names as far as they fall into the same
pieces when they are cut at their semicolons, and so it tells names that hold
none.  When such names differ and yet the names derived from them are the same,
the digests of two different texts begin with the same digits.
-/

namespace SchemaScript.Sql

/-! ## Names without semicolons -/

/-- Names that hold no semicolon. -/
def WithoutSemicolons (names : List String) : Prop :=
  ∀ name ∈ names, NoSemicolon name

instance (names : List String) : Decidable (WithoutSemicolons names) :=
  inferInstanceAs (Decidable (∀ name ∈ names, NoSemicolon name))

variable {names others : List String}

/-- A name adds as many pieces as it has between its semicolons. -/
theorem length_pieces_cons
    {name : String} :
    (pieces (name :: names)).length = (name.toList.splitOn ';').length + (pieces names).length := by
  rw [pieces, List.flatMap_cons, List.length_append, ← pieces]

/-- Splitting a text gives at least one piece. -/
theorem length_splitOn_pos
    {text : List Char} :
    0 < (text.splitOn ';').length :=
  List.length_pos_iff.mpr (List.splitOn_ne_nil ';' text)

/-- Every name is a piece at least. -/
theorem length_le_length_pieces :
    names.length ≤ (pieces names).length := by
  induction names with
  | nil =>
      exact Nat.zero_le _
  | cons name later inductionHypothesis =>
      rw [length_pieces_cons, List.length_cons, Nat.add_comm]
      exact Nat.add_le_add length_splitOn_pos inductionHypothesis

/-- A name that is one piece holds no semicolon. -/
theorem noSemicolon_of_length_splitOn
    {name : String}
    (onePiece : (name.toList.splitOn ';').length ≤ 1) :
    NoSemicolon name := by
  intro member
  obtain ⟨before, after, cut⟩ := List.append_of_mem member
  rw [cut, List.splitOn_append_cons_self, List.length_append] at onePiece
  have beforeFilled : 0 < (before.splitOn ';').length := length_splitOn_pos
  have afterFilled : 0 < (after.splitOn ';').length := length_splitOn_pos
  omega

/-- Names that are no more pieces than names hold no semicolon. -/
theorem withoutSemicolons_of_length_pieces
    (count : (pieces names).length ≤ names.length) :
    WithoutSemicolons names := by
  induction names with
  | nil =>
      intro name member
      cases member
  | cons name later inductionHypothesis =>
      rw [length_pieces_cons, List.length_cons] at count
      have nameFilled : 0 < (name.toList.splitOn ';').length := length_splitOn_pos
      have laterFilled : later.length ≤ (pieces later).length := length_le_length_pieces
      have onePiece : (name.toList.splitOn ';').length ≤ 1 := by omega
      have laterCount : (pieces later).length ≤ later.length := by omega
      exact
        List.forall_mem_cons.mpr
          ⟨noSemicolon_of_length_splitOn onePiece, inductionHypothesis laterCount⟩

/--
Names without semicolons are told by their text from other such names, and from
any other names that are as many.
-/
theorem eq_of_digestInput_eq
    (notEmpty : names ≠ [])
    (othersNotEmpty : others ≠ [])
    (plain : WithoutSemicolons names)
    (alike : WithoutSemicolons others ∨ others.length = names.length)
    (same : digestInput names = digestInput others) :
    names = others := by
  have othersPlain : WithoutSemicolons others := by
    rcases alike with othersPlain | sameCount
    · exact othersPlain
    · apply withoutSemicolons_of_length_pieces
      rw [← (digestInput_eq_iff notEmpty othersNotEmpty).mp same, pieces_of_plain plain,
        List.length_map, sameCount]
  exact digestInput_inj notEmpty othersNotEmpty plain othersPlain same

/-! ## Names that are derived -/

/-- A name ends in the first digits of the digest of what it is derived from. -/
def EndsInDigest (length : Nat) (derived : String) (names : List String) : Prop :=
  ∃ words, derived = words ++ leading length (Text.digest (digestInput names))

/-- The digests of two different texts begin with the same digits. -/
structure DigestsMeet (length : Nat) (names others : List String) : Prop where
  textsDiffer : digestInput names ≠ digestInput others
  digitsMeet :
    leading length (Text.digest (digestInput names)) =
      leading length (Text.digest (digestInput others))

/-- What the texts under the digests of two derived names tell, and what these names tell. -/
structure ToldByDigests (length : Nat) (derived otherDerived : String)
    (names others : List String) : Prop where
  ends : EndsInDigest length derived names
  otherEnds : EndsInDigest length otherDerived others
  sameText_iff : digestInput names = digestInput others ↔ pieces names = pieces others
  eq_of_sameText :
    WithoutSemicolons names → WithoutSemicolons others ∨ others.length = names.length →
      digestInput names = digestInput others → names = others
  eq_or_meet_of_sameName :
    WithoutSemicolons names → WithoutSemicolons others ∨ others.length = names.length →
      derived = otherDerived → names = others ∨ DigestsMeet length names others

/-- Names that end in the digits of digests tell what the digests tell. -/
theorem EndsInDigest.told
    {length : Nat}
    {derived otherDerived : String}
    (ends : EndsInDigest length derived names)
    (otherEnds : EndsInDigest length otherDerived others)
    (enough : length ≤ 64)
    (notEmpty : names ≠ [])
    (othersNotEmpty : others ≠ []) :
    ToldByDigests length derived otherDerived names others where
  ends := ends
  otherEnds := otherEnds
  sameText_iff := digestInput_eq_iff notEmpty othersNotEmpty
  eq_of_sameText := eq_of_digestInput_eq notEmpty othersNotEmpty
  eq_or_meet_of_sameName := by
    intro plain alike sameName
    by_cases sameText : digestInput names = digestInput others
    · exact .inl (eq_of_digestInput_eq notEmpty othersNotEmpty plain alike sameText)
    · obtain ⟨words, rfl⟩ := ends
      obtain ⟨otherWords, rfl⟩ := otherEnds
      have sameDigits := shortDigest_eq_of_append_eq enough sameName
      exact .inr { textsDiffer := sameText, digitsMeet := sameDigits }

/--
The text under the digest of an index's name is that of another one exactly when
the table and the columns fall into the same pieces at their semicolons, and so it
is with foreign keys and what they lead from and to.  Names without semicolons are
therefore told by these texts, and what is derived from different ones is the same
only if the digests of different texts begin with the same digits.
-/
theorem derivedNames_toldByDigests :
    (∀ (kind otherKind table otherTable : String) (columns otherColumns : List String),
        ToldByDigests 6 (indexName kind table columns)
          (indexName otherKind otherTable otherColumns)
          (table :: columns) (otherTable :: otherColumns)) ∧
      ∀ fromTable fromColumn toTable toColumn
        otherFromTable otherFromColumn otherToTable otherToColumn : String,
        ToldByDigests 8 (foreignKeyName fromTable fromColumn toTable toColumn)
          (foreignKeyName otherFromTable otherFromColumn otherToTable otherToColumn)
          [fromTable, fromColumn, toTable, toColumn]
          [otherFromTable, otherFromColumn, otherToTable, otherToColumn] := by
  constructor
  · intro kind otherKind table otherTable columns otherColumns
    have ends
        (kind table : String)
        (columns : List String) :
        EndsInDigest 6 (indexName kind table columns) (table :: columns) :=
      ⟨_, indexName_eq⟩
    exact
      (ends kind table columns).told (ends otherKind otherTable otherColumns) (by decide)
        (List.cons_ne_nil _ _) (List.cons_ne_nil _ _)
  · intro fromTable fromColumn toTable toColumn
      otherFromTable otherFromColumn otherToTable otherToColumn
    have ends
        (fromTable fromColumn toTable toColumn : String) :
        EndsInDigest 8 (foreignKeyName fromTable fromColumn toTable toColumn)
          [fromTable, fromColumn, toTable, toColumn] :=
      ⟨_, foreignKeyName_eq⟩
    exact
      (ends fromTable fromColumn toTable toColumn).told
        (ends otherFromTable otherFromColumn otherToTable otherToColumn) (by decide)
        (List.cons_ne_nil _ _) (List.cons_ne_nil _ _)

/-- Two columns whose indexes have the same name, and two whose foreign keys have. -/
theorem derivedNames_toldByDigests_eventNames :
    WithoutSemicolons ["event", "result_2515"] ∧
      WithoutSemicolons ["event", "result_8827"] ∧
      indexName "idx" "event" ["result_2515"] = indexName "idx" "event" ["result_8827"] ∧
      DigestsMeet 6 ["event", "result_2515"] ["event", "result_8827"] ∧
      WithoutSemicolons ["event", "team_15385_id", "team", "id"] ∧
      foreignKeyName "event" "team_15385_id" "team" "id" =
        foreignKeyName "event" "team_18637_id" "team" "id" ∧
      DigestsMeet 8 ["event", "team_15385_id", "team", "id"]
        ["event", "team_18637_id", "team", "id"] := by
  obtain ⟨ofIndexes, ofKeys⟩ := derivedNames_toldByDigests
  have indexPlain : WithoutSemicolons ["event", "result_2515"] := by decide
  have otherPlain : WithoutSemicolons ["event", "result_8827"] := by decide
  have indexSame :
      indexName "idx" "event" ["result_2515"] = indexName "idx" "event" ["result_8827"] := by
    apply String.toList_injective
    decide +kernel
  have keyPlain : WithoutSemicolons ["event", "team_15385_id", "team", "id"] := by decide
  have keySame :
      foreignKeyName "event" "team_15385_id" "team" "id" =
        foreignKeyName "event" "team_18637_id" "team" "id" := by
    apply String.toList_injective
    decide +kernel
  have indexesMeet :=
    ((ofIndexes _ _ _ _ _ _).eq_or_meet_of_sameName indexPlain (.inl otherPlain)
      indexSame).resolve_left (by decide)
  have keysMeet :=
    ((ofKeys "event" "team_15385_id" "team" "id" "event" "team_18637_id" "team"
      "id").eq_or_meet_of_sameName keyPlain (.inr rfl) keySame).resolve_left (by decide)
  exact
    ⟨indexPlain, otherPlain, indexSame, indexesMeet, keyPlain, keySame, keysMeet⟩

/-- Copies of books and loans of them; a semicolon stands in a table's name or in a column's. -/
def borrowingModel : Model where
  info := .named "Borrowing"
  entities := [
    Entity.named "Book",
    { Entity.named "Copy" with tableName := "borrowed;copy" }.withRelationship
      (.linking "book" "Book" .manyToOne),
    ({ Entity.named "Loan" with tableName := "borrowed" }.withField
      { Field.named "book_id" (.reference "Book" "") with
        columnName := "copy;book_id" }).withRelationship
      (.linking "book" "Book" .manyToOne)]

/--
Names of tables and columns that a valid model has, and that one text stands for:
their indexes have one digest, and their foreign keys have one name.
-/
theorem borrowings_not_told :
    borrowingModel.validate = .ok () ∧
      borrowingModel.entities.map (fun entity =>
          (entity.tableName, entity.fields.map (·.columnName))) =
        [("book", ["id"]), ("borrowed;copy", ["id", "book_id"]),
          ("borrowed", ["id", "copy;book_id"])] ∧
      ("borrowed;copy", ["book_id"]) ≠ ("borrowed", ["copy;book_id"]) ∧
      digestInput ("borrowed;copy" :: ["book_id"]) =
        digestInput ("borrowed" :: ["copy;book_id"]) ∧
      ("borrowed;copy", "book_id", "book", "id") ≠ ("borrowed", "copy;book_id", "book", "id") ∧
      digestInput ["borrowed;copy", "book_id", "book", "id"] =
        digestInput ["borrowed", "copy;book_id", "book", "id"] ∧
      foreignKeyName "borrowed;copy" "book_id" "book" "id" =
        foreignKeyName "borrowed" "copy;book_id" "book" "id" := by
  refine ⟨?_, ?_, by decide, ?_, by decide, ?_, ?_⟩
  · decide +kernel
  · decide +kernel
  · decide +kernel
  · decide +kernel
  · apply String.toList_injective
    decide +kernel

end SchemaScript.Sql
