import Mathlib.Data.String.Basic
import SchemaScript.Dialect
import SchemaScript.Model.Validation
import SchemaScript.Proofs.Sql.Name

/-!
# How long derived names are

PostgreSQL cuts names that are longer than 63 bytes, and MySQL refuses those of
more than 64 characters.  What a derived name takes from other names is counted
in characters, and its digits are one byte each.  Its characters are therefore
always few enough for MySQL, while its bytes are few enough for PostgreSQL
unless what it takes from other names is written in wide characters.
-/

namespace SchemaScript.Sql

/-! ## Limits -/

/-- A name is no longer than the names that a database takes over whole. -/
def FitsWhole : Database → String → Prop
  | .postgreSQL, name => name.utf8ByteSize ≤ 63
  | .mySQL, name => name.length ≤ 64
  | .sqlite, _ => True

/-- The characters of a text are no wider than some number of bytes. -/
def Narrow (size : Nat) (text : String) : Prop :=
  ∀ character ∈ text.toList, character.utf8Size ≤ size

instance (size : Nat) (text : String) : Decidable (Narrow size text) :=
  decidable_of_iff (text.toList.all fun character => character.utf8Size ≤ size)
    (by simp [Narrow])

/-- The words that names of indexes and unique constraints begin with. -/
def indexKinds : List String :=
  ["idx", "uid", "uidx"]

/-! ## Beginnings of names -/

/-- A text is at most as long in bytes as its characters can be wide. -/
theorem utf8Len_le
    {size : Nat}
    {text : List Char}
    (narrow : ∀ character ∈ text, character.utf8Size ≤ size) :
    String.utf8Len text ≤ size * text.length := by
  induction text with
  | nil =>
      exact Nat.zero_le _
  | cons character rest inductionHypothesis =>
      obtain ⟨firstNarrow, restNarrow⟩ := List.forall_mem_cons.mp narrow
      rw [String.utf8Len_cons, List.length_cons, Nat.mul_succ]
      exact Nat.add_le_add (inductionHypothesis restNarrow) firstNarrow

/-- The beginning of a text has as many characters as asked for, at most. -/
theorem length_leading_le
    {count : Nat}
    {text : String} :
    (leading count text).length ≤ count := by
  rw [leading, String.length_ofList]
  exact List.length_take_le count text.toList

/-- The beginning of a text in narrow characters has few bytes. -/
theorem Narrow.utf8ByteSize_leading_le
    {size count : Nat}
    {text : String}
    (narrow : Narrow size text) :
    (leading count text).utf8ByteSize ≤ size * count := by
  have beginning :
      String.utf8Len (text.toList.take count) ≤ size * (text.toList.take count).length :=
    utf8Len_le fun character member => narrow character (List.mem_of_mem_take member)
  rw [leading, String.utf8ByteSize_ofList]
  exact beginning.trans (Nat.mul_le_mul_left size (List.length_take_le count text.toList))

/-! ## Digits -/

/-- The digits of a digest are one byte each. -/
theorem utf8Size_of_mem_digest
    {text : String}
    {digit : Char}
    (member : digit ∈ (Text.digest text).toList) :
    digit.utf8Size = 1 := by
  have allDigits : ∀ value < 16, (Nat.digitChar value).utf8Size = 1 := by decide
  rw [Text.digest, String.toList_ofList] at member
  obtain ⟨word, _, inWord⟩ := List.mem_flatMap.mp member
  obtain ⟨shift, _, rfl⟩ := List.mem_map.mp inWord
  exact allDigits _ (Nat.mod_lt _ (by decide))

/-- A text of characters of one byte is as long in bytes as in characters. -/
theorem utf8Len_eq_length
    {text : List Char}
    (single : ∀ character ∈ text, character.utf8Size = 1) :
    String.utf8Len text = text.length := by
  induction text with
  | nil =>
      rfl
  | cons character rest inductionHypothesis =>
      obtain ⟨firstSingle, restSingle⟩ := List.forall_mem_cons.mp single
      rw [String.utf8Len_cons, inductionHypothesis restSingle, firstSingle, List.length_cons]

/-- The first digits of a digest are as many bytes as digits. -/
theorem utf8ByteSize_shortDigest
    {length : Nat}
    {parts : List String}
    (enough : length ≤ 64) :
    (shortDigest length parts).utf8ByteSize = length := by
  have single : ∀ digit ∈ (shortDigest length parts).toList, digit.utf8Size = 1 := by
    intro digit member
    rw [shortDigest, leading, String.toList_ofList] at member
    exact utf8Size_of_mem_digest (List.mem_of_mem_take member)
  rw [← String.utf8Len_toList, utf8Len_eq_length single, length_shortDigest enough]

/-! ## Names -/

/-- A count of what is in a text that adds up over its parts and takes digits one by one. -/
structure Counts (size : String → Nat) : Prop where
  append : ∀ first second, size (first ++ second) = size first + size second
  digits : ∀ {length parts}, length ≤ 64 → size (shortDigest length parts) = length
  separator : size "_" = 1
  opening : size "fk_" = 3

theorem counts_characters : Counts String.length where
  append := String.length_append
  digits enough := by
    rw [← String.length_toList, length_shortDigest enough]
  separator := rfl
  opening := rfl

theorem counts_bytes : Counts String.utf8ByteSize where
  append _ _ := String.utf8ByteSize_append
  digits enough := utf8ByteSize_shortDigest enough
  separator := rfl
  opening := rfl

variable {kind table : String} {columns : List String}
  {fromTable fromColumn toTable toColumn : String} {size : String → Nat}

/-- The size of the name of an index is that of its parts. -/
theorem Counts.indexName
    (counts : Counts size) :
    size (indexName kind table columns) =
      size kind + size (leading 11 table) + size (leading 7 (columns.headD "")) + 9 := by
  have digits : size (shortDigest 6 (table :: columns)) = 6 := counts.digits (by decide)
  simp only [indexName_eq, counts.append, counts.separator, digits]
  omega

/-- The size of the name of a foreign key is that of its parts. -/
theorem Counts.foreignKeyName
    (counts : Counts size) :
    size (foreignKeyName fromTable fromColumn toTable toColumn) =
      size (leading 8 fromTable) + size (leading 8 toTable) + 13 := by
  have digits : size (shortDigest 8 [fromTable, fromColumn, toTable, toColumn]) = 8 :=
    counts.digits (by decide)
  simp only [foreignKeyName_eq, counts.append, counts.separator, counts.opening, digits]
  omega

/-- The word that the name of an index begins with is short, in characters and in bytes. -/
theorem length_of_mem_indexKinds
    (isKind : kind ∈ indexKinds) :
    kind.length ≤ 4 ∧ kind.utf8ByteSize ≤ 4 := by
  have allShort : ∀ kind ∈ indexKinds, kind.length ≤ 4 ∧ kind.utf8ByteSize ≤ 4 := by decide
  exact allShort kind isKind

/--
The names of indexes and foreign keys are short enough for MySQL, whatever they
are derived from.  They are short enough for PostgreSQL exactly when what they
take from the names of tables and columns is few enough bytes, and so at least
if the characters of these names are no wider than two bytes, or three for
foreign keys.
-/
theorem derivedNames_fitWhole
    (isKind : kind ∈ indexKinds)
    (table : String)
    (columns : List String)
    (fromTable fromColumn toTable toColumn : String) :
    ((indexName kind table columns).length ≤ 31 ∧
        FitsWhole .mySQL (indexName kind table columns) ∧
        (FitsWhole .postgreSQL (indexName kind table columns) ↔
          kind.utf8ByteSize + (leading 11 table).utf8ByteSize +
            (leading 7 (columns.headD "")).utf8ByteSize ≤ 54) ∧
        (Narrow 2 table → Narrow 2 (columns.headD "") →
          FitsWhole .postgreSQL (indexName kind table columns))) ∧
      (foreignKeyName fromTable fromColumn toTable toColumn).length ≤ 29 ∧
        FitsWhole .mySQL (foreignKeyName fromTable fromColumn toTable toColumn) ∧
        (FitsWhole .postgreSQL (foreignKeyName fromTable fromColumn toTable toColumn) ↔
          (leading 8 fromTable).utf8ByteSize + (leading 8 toTable).utf8ByteSize ≤ 50) ∧
        (Narrow 3 fromTable → Narrow 3 toTable →
          FitsWhole .postgreSQL (foreignKeyName fromTable fromColumn toTable toColumn)) := by
  constructor
  · obtain ⟨kindShort, kindBytes⟩ := length_of_mem_indexKinds isKind
    have tableShort : (leading 11 table).length ≤ 11 := length_leading_le
    have columnShort : (leading 7 (columns.headD "")).length ≤ 7 := length_leading_le
    simp only [FitsWhole, counts_characters.indexName, counts_bytes.indexName]
    refine ⟨by omega, by omega, by omega, ?_⟩
    intro tableNarrow columnNarrow
    have tableBytes : (leading 11 table).utf8ByteSize ≤ 2 * 11 :=
      tableNarrow.utf8ByteSize_leading_le
    have columnBytes : (leading 7 (columns.headD "")).utf8ByteSize ≤ 2 * 7 :=
      columnNarrow.utf8ByteSize_leading_le
    omega
  · have fromShort : (leading 8 fromTable).length ≤ 8 := length_leading_le
    have toShort : (leading 8 toTable).length ≤ 8 := length_leading_le
    simp only [FitsWhole, counts_characters.foreignKeyName, counts_bytes.foreignKeyName]
    refine ⟨by omega, by omega, by omega, ?_⟩
    intro fromNarrow toNarrow
    have fromBytes : (leading 8 fromTable).utf8ByteSize ≤ 3 * 8 :=
      fromNarrow.utf8ByteSize_leading_le
    have toBytes : (leading 8 toTable).utf8ByteSize ≤ 3 * 8 :=
      toNarrow.utf8ByteSize_leading_le
    omega

/-- Names in Cyrillic letters, which are two bytes wide, and in kanji, which are three. -/
theorem derivedNames_fitWhole_wideLetters :
    "uidx" ∈ indexKinds ∧ Narrow 2 "журнал_посещений" ∧ Narrow 2 "посетитель" ∧
      FitsWhole .mySQL (indexName "uidx" "журнал_посещений" ["посетитель"]) ∧
      FitsWhole .postgreSQL (indexName "uidx" "журнал_посещений" ["посетитель"]) ∧
      Narrow 3 "図書館貸出記録管理台帳" ∧ Narrow 3 "図書館利用者登録台帳" ∧
      FitsWhole .postgreSQL
        (foreignKeyName "図書館貸出記録管理台帳" "利用者登録番号" "図書館利用者登録台帳" "登録番号") := by
  have isKind : "uidx" ∈ indexKinds := by decide
  have tableNarrow : Narrow 2 "журнал_посещений" := by decide
  have columnNarrow : Narrow 2 "посетитель" := by decide
  have fromNarrow : Narrow 3 "図書館貸出記録管理台帳" := by decide
  have toNarrow : Narrow 3 "図書館利用者登録台帳" := by decide
  obtain ⟨⟨_, indexFits, _, indexFitsBytes⟩, _, _, _, keyFitsBytes⟩ :=
    derivedNames_fitWhole isKind "журнал_посещений" ["посетитель"]
      "図書館貸出記録管理台帳" "利用者登録番号" "図書館利用者登録台帳" "登録番号"
  exact
    ⟨isKind, tableNarrow, columnNarrow, indexFits, indexFitsBytes tableNarrow columnNarrow,
      fromNarrow, toNarrow, keyFitsBytes fromNarrow toNarrow⟩

/-- A register of loans whose names are written in kanji, some of them in a rare one. -/
def registerModel : Model where
  info := .named "Register"
  entities := [
    ((({ Entity.named "Reader" with tableName := "𠮷𠮷𠮷𠮷𠮷𠮷𠮷𠮷𠮷𠮷𠮷" }.withField
      { Field.named "name" .string with columnName := "𠮷𠮷𠮷𠮷𠮷𠮷𠮷" }).withIndex
      { name := none, fields := ["name"], unique := true }).withIndex
      { name := none, fields := ["name", "id"], unique := true }),
    ({ Entity.named "Loan" with tableName := "図書館貸出記録管理台帳" }.withField
      { Field.named "reader" .string with columnName := "利用者登録番号" }).withIndex
      { name := none, fields := ["reader"], unique := true }]

/--
Names derived from tables and columns that a valid model has are too long for
PostgreSQL, and two of them begin with the same 63 bytes.
-/
theorem registerNames_too_long :
    registerModel.validate = .ok () ∧
      registerModel.entities.map (fun entity =>
          (entity.tableName, entity.fields.map (·.columnName))) =
        [("𠮷𠮷𠮷𠮷𠮷𠮷𠮷𠮷𠮷𠮷𠮷", ["id", "𠮷𠮷𠮷𠮷𠮷𠮷𠮷"]),
          ("図書館貸出記録管理台帳", ["id", "利用者登録番号"])] ∧
      (indexName "uidx" "図書館貸出記録管理台帳" ["利用者登録番号"]).utf8ByteSize = 67 ∧
      ¬ FitsWhole .postgreSQL (indexName "uidx" "図書館貸出記録管理台帳" ["利用者登録番号"]) ∧
      ¬ FitsWhole .postgreSQL
        (foreignKeyName "図書館貸出記録管理台帳" "利用者登録番号" "𠮷𠮷𠮷𠮷𠮷𠮷𠮷𠮷𠮷𠮷𠮷" "id") ∧
      ∃ words digits otherDigits, 63 ≤ words.utf8ByteSize ∧
        indexName "uidx" "𠮷𠮷𠮷𠮷𠮷𠮷𠮷𠮷𠮷𠮷𠮷" ["𠮷𠮷𠮷𠮷𠮷𠮷𠮷"] = words ++ digits ∧
        indexName "uidx" "𠮷𠮷𠮷𠮷𠮷𠮷𠮷𠮷𠮷𠮷𠮷" ["𠮷𠮷𠮷𠮷𠮷𠮷𠮷", "id"] = words ++ otherDigits := by
  have indexBytes :
      (indexName "uidx" "図書館貸出記録管理台帳" ["利用者登録番号"]).utf8ByteSize = 67 := by
    rw [counts_bytes.indexName]
    decide
  refine
    ⟨by decide +kernel, by decide +kernel, indexBytes, ?_, ?_, _, _, _, ?_, indexName_eq,
      indexName_eq⟩
  · rw [FitsWhole, indexBytes]
    decide
  · rw [FitsWhole, counts_bytes.foreignKeyName]
    decide
  · decide

end SchemaScript.Sql
