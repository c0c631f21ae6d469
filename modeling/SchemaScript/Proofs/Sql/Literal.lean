import SchemaScript.Proofs.Sql.Quoted
import SchemaScript.TableUnit.Columns

/-!
# What text literals say

Defaults and comments are written as literals in which apostrophes are doubled.
Databases without escapes read such a literal as the text that was meant,
whatever the text holds.  MySQL, which takes a backslash for the beginning of
an escape, does so exactly when each backslash of the text is followed by one
of the two characters before which it stands for itself.
-/

namespace SchemaScript.Sql

open Database

/-! ## Backslashes -/

/-- Each backslash is followed by one of the characters before which it stays in the text. -/
def BackslashesStay : List Char → Prop
  | [] => True
  | first :: rest =>
      (first = '\\' → rest.head? = some '%' ∨ rest.head? = some '_') ∧ BackslashesStay rest

instance decidableBackslashesStay :
    (text : List Char) → Decidable (BackslashesStay text)
  | [] => .isTrue trivial
  | _ :: rest =>
      have := decidableBackslashesStay rest
      inferInstanceAs (Decidable (_ ∧ _))

variable {rest text said : List Char} {character : Char}

/-- A character that is no backslash does not change which backslashes stay. -/
theorem backslashesStay_cons_iff
    (other : character ≠ '\\') :
    BackslashesStay (character :: text) ↔ BackslashesStay text := by
  simp [BackslashesStay, other]

theorem ne_of_stays
    (stays : character = '%' ∨ character = '_') :
    character ≠ '\'' ∧ character ≠ '\\' := by
  rcases stays with rfl | rfl <;> decide

/-- A backslash stays only before the two wildcards of a pattern. -/
theorem backslashesStay_backslash_iff :
    BackslashesStay ('\\' :: character :: text) ↔
      (character = '%' ∨ character = '_') ∧ BackslashesStay text := by
  constructor
  · rintro ⟨follows, _, laterStay⟩
    exact ⟨by simpa using follows rfl, laterStay⟩
  · rintro ⟨stays, laterStay⟩
    refine ⟨fun _ => by simpa using stays, ?_⟩
    exact (backslashesStay_cons_iff (ne_of_stays stays).2).mpr laterStay

/-- Before a wildcard a backslash is kept. -/
theorem escaped_of_stays
    (stays : character = '%' ∨ character = '_') :
    escaped character = ['\\', character] := by
  rcases stays with rfl | rfl <;> rfl

/-- Before any other character a backslash is lost. -/
theorem length_escaped_of_not_stays
    (changes : ¬ (character = '%' ∨ character = '_')) :
    (escaped character).length = 1 := by
  unfold escaped
  split <;> simp_all

/-! ## Reading where there are escapes -/

/-- A backslash in a literal takes the character after it along. -/
theorem readToMark_doubleChar_backslash
    (other : character ≠ '\'') :
    readToMark '\'' true (doubleChar '\'' ('\\' :: character :: text) ++ rest) =
      preceded (escaped character) (readToMark '\'' true (doubleChar '\'' text ++ rest)) := by
  simp [doubleChar, other, readToMark_escape]

/-- A text whose backslashes stay is read as it was. -/
theorem readToMark_of_backslashesStay
    (ends : rest.head? ≠ some '\'')
    (stay : BackslashesStay text) :
    readToMark '\'' true (doubleChar '\'' text ++ '\'' :: rest) = some (text, rest) := by
  induction text with
  | nil =>
      exact readToMark_doubleChar_nil ends
  | cons character later inductionHypothesis =>
      have laterRead := inductionHypothesis stay.2
      by_cases isBackslash : character = '\\'
      · subst isBackslash
        cases later with
        | nil =>
            simp [BackslashesStay] at stay
        | cons second others =>
            obtain ⟨stays, _⟩ := backslashesStay_backslash_iff.mp stay
            obtain ⟨notMark, notBackslash⟩ := ne_of_stays stays
            rw [readToMark_doubleChar_cons (by simp [notBackslash])] at laterRead
            rw [readToMark_doubleChar_backslash notMark, escaped_of_stays stays, preceded_cons,
              laterRead]
            rfl
      · rw [readToMark_doubleChar_cons (by simp [isBackslash]), laterRead]
        rfl

/--
A text is not read to its end after a mark that is not its own: its doubled
marks are paired off wrongly.
-/
theorem readToMark_mark_doubleChar_ne :
    readToMark '\'' true ('\'' :: (doubleChar '\'' text ++ '\'' :: rest)) ≠
      some (said, rest) := by
  induction text generalizing said with
  | nil =>
      intro read
      obtain ⟨_, restRead, _⟩ := preceded_eq_some_iff.mp (readToMark_doubled.symm.trans read)
      exact Nat.lt_irrefl _ (length_lt_of_readToMark restRead)
  | cons character later inductionHypothesis =>
      intro read
      by_cases isMark : character = '\''
      · subst isMark
        have doubled :
            doubleChar '\'' ('\'' :: later) = '\'' :: '\'' :: doubleChar '\'' later := rfl
        rw [doubled, List.cons_append, List.cons_append, readToMark_doubled,
          preceded_eq_some_iff] at read
        obtain ⟨_, laterRead, _⟩ := read
        exact inductionHypothesis laterRead
      · have kept :
            doubleChar '\'' (character :: later) = character :: doubleChar '\'' later := by
          simp [doubleChar, isMark]
        rw [kept, List.cons_append, readToMark_end (by simp [isMark]), Option.some.injEq,
          Prod.mk.injEq] at read
        have sameLength := congrArg List.length read.2
        simp only [List.length_cons, List.length_append] at sameLength
        omega

/-- A backslash takes the character after it along, which is no mark. -/
theorem exists_of_readToMark_backslash
    (read :
      readToMark '\'' true (doubleChar '\'' ('\\' :: text) ++ '\'' :: rest) =
        some (said, rest)) :
    ∃ second others othersSaid, text = second :: others ∧
      readToMark '\'' true (doubleChar '\'' others ++ '\'' :: rest) =
        some (othersSaid, rest) ∧
      escaped second ++ othersSaid = said := by
  cases text with
  | nil =>
      obtain ⟨_, restRead, _⟩ :=
        preceded_eq_some_iff.mp ((readToMark_escape (by decide)).symm.trans read)
      exact (Nat.lt_irrefl _ (length_lt_of_readToMark restRead)).elim
  | cons second others =>
      by_cases isMark : second = '\''
      · subst isMark
        obtain ⟨_, othersRead, _⟩ :=
          preceded_eq_some_iff.mp ((readToMark_escape (by decide)).symm.trans read)
        exact (readToMark_mark_doubleChar_ne othersRead).elim
      · rw [readToMark_doubleChar_backslash isMark, preceded_eq_some_iff] at read
        obtain ⟨othersSaid, othersRead, same⟩ := read
        exact ⟨second, others, othersSaid, rfl, othersRead, same⟩

/-- An escape makes a text shorter unless its backslash stays. -/
theorem backslashesStay_of_readToMark
    (ends : rest.head? ≠ some '\'')
    (read :
      readToMark '\'' true (doubleChar '\'' text ++ '\'' :: rest) = some (said, rest)) :
    said.length ≤ text.length ∧ (said.length = text.length → BackslashesStay text) := by
  -- an escape takes two characters of the text at once
  induction size : text.length using Nat.strongRecOn generalizing text said with
  | _ size inductionHypothesis =>
  subst size
  cases text with
  | nil =>
      rw [readToMark_doubleChar_nil ends] at read
      cases read
      exact ⟨Nat.le_refl 0, fun _ => trivial⟩
  | cons character later =>
      by_cases isBackslash : character = '\\'
      · subst isBackslash
        obtain ⟨second, others, othersSaid, rfl, othersRead, rfl⟩ :=
          exists_of_readToMark_backslash read
        have smaller : others.length < ('\\' :: second :: others).length := by
          simp only [List.length_cons]
          omega
        obtain ⟨shorter, othersStay⟩ := inductionHypothesis _ smaller othersRead rfl
        simp only [List.length_append, List.length_cons, backslashesStay_backslash_iff]
        by_cases stays : second = '%' ∨ second = '_'
        · simp only [escaped_of_stays stays, List.length_cons, List.length_nil]
          exact ⟨by omega, fun sameLength => ⟨stays, othersStay (by omega)⟩⟩
        · rw [length_escaped_of_not_stays stays]
          omega
      · rw [readToMark_doubleChar_cons (by simp [isBackslash]), preceded_eq_some_iff] at read
        obtain ⟨laterSaid, laterRead, rfl⟩ := read
        obtain ⟨shorter, laterStay⟩ := inductionHypothesis _ (Nat.lt_succ_self _) laterRead rfl
        simp only [List.length_append, List.length_cons, List.length_nil,
          backslashesStay_cons_iff isBackslash]
        exact ⟨by omega, fun sameLength => laterStay (by omega)⟩

/-! ## Literals -/

/-- A text literal: the text with doubled apostrophes between two others. -/
def textLiteral (text : String) : String :=
  "'" ++ escapeLiteral text ++ "'"

/-- A literal is read as one literal that says a text, unless what follows continues it. -/
def ReadsAs (database : Database) (literal text : String) : Prop :=
  ∀ rest : List Char, rest.head? ≠ some '\'' →
    database.readLiteral (literal.toList ++ rest) = some (text, rest)

/-- A literal is read up to the mark that closes it. -/
theorem readLiteral_textLiteral
    {database : Database}
    {text : String} :
    database.readLiteral ((textLiteral text).toList ++ rest) =
      (readToMark '\'' database.hasEscapes
        (doubleChar '\'' text.toList ++ '\'' :: rest)).map
          fun (said, after) => (String.ofList said, after) := by
  simp [readLiteral, readQuoted, textLiteral, escapeLiteral]

/-- A literal is read as its text, in MySQL as far as its backslashes stay. -/
theorem readsAs_textLiteral_iff
    {database : Database}
    {text : String} :
    ReadsAs database (textLiteral text) text ↔
      (database = .mySQL → BackslashesStay text.toList) := by
  constructor
  · rintro reads rfl
    have read := reads [] (by simp)
    rw [readLiteral_textLiteral, Option.map_eq_some_iff] at read
    obtain ⟨⟨said, after⟩, saidRead, same⟩ := read
    cases same
    exact (backslashesStay_of_readToMark (by simp) saidRead).2 (by simp)
  · intro stay rest ends
    have read :
        readToMark '\'' database.hasEscapes (doubleChar '\'' text.toList ++ '\'' :: rest) =
          some (text.toList, rest) := by
      cases database with
      | mySQL => exact readToMark_of_backslashesStay ends (stay rfl)
      | postgreSQL => exact readToMark_doubleChar ends
      | sqlite => exact readToMark_doubleChar ends
    rw [readLiteral_textLiteral, read]
    simp

/--
The literal of a default, in each database, and those of comments in
PostgreSQL and MySQL are read as one literal that says the given text.  In
MySQL this holds exactly of the texts whose backslashes stay.
-/
theorem literal_readsAs
    (text : String) :
    (∀ (database : Database) (field : Field), field.defaultValue = some (.string text) →
        field.dataType.inlinesDefault = true →
          ∃ literal, TableUnit.defaultLiteral database field = .ok (some literal) ∧
            (ReadsAs database literal text ↔
              (database = .mySQL → BackslashesStay text.toList))) ∧
      (∀ table column : String, ∃ literal,
        CommentQueue.columnStatement .postgreSQL table column text =
            "COMMENT ON COLUMN " ++ table ++ "." ++ quote .postgreSQL column ++ " IS " ++ literal ++
              ";" ∧
          ReadsAs .postgreSQL literal text) ∧
      (∀ table : String, ∃ literal,
        CommentQueue.tableStatement .postgreSQL table text =
            "COMMENT ON TABLE " ++ table ++ " IS " ++ literal ++ ";" ∧
          ReadsAs .postgreSQL literal text) ∧
      ∀ queue : CommentQueue, queue.style = commentStyle .mySQL →
        (∀ column : String, ∃ literal,
          (queue.addColumn .mySQL column text).2 = " COMMENT " ++ literal ∧
            (ReadsAs .mySQL literal text ↔ BackslashesStay text.toList)) ∧
          ∃ literal, (queue.addTable .mySQL text).2 = " COMMENT=" ++ literal ∧
            (ReadsAs .mySQL literal text ↔ BackslashesStay text.toList) := by
  have inPostgreSQL : ReadsAs .postgreSQL (textLiteral text) text :=
    readsAs_textLiteral_iff.mpr nofun
  have inMySQL : ReadsAs .mySQL (textLiteral text) text ↔ BackslashesStay text.toList :=
    readsAs_textLiteral_iff.trans (forall_prop_of_true rfl)
  refine ⟨?_, ?_, ?_, ?_⟩
  · intro database field isText inlines
    refine ⟨textLiteral text, ?_, readsAs_textLiteral_iff⟩
    simp [TableUnit.defaultLiteral, isText, inlines, textLiteral]
  · intro table column
    refine ⟨textLiteral text, ?_, inPostgreSQL⟩
    unfold CommentQueue.columnStatement
    apply String.toList_injective
    simp [escapeComment, commentStyle, textLiteral]
  · intro table
    refine ⟨textLiteral text, ?_, inPostgreSQL⟩
    unfold CommentQueue.tableStatement
    apply String.toList_injective
    simp [escapeComment, commentStyle, textLiteral]
  · intro queue style
    constructor
    · intro column
      refine ⟨textLiteral text, ?_, inMySQL⟩
      simp only [CommentQueue.addColumn, style]
      apply String.toList_injective
      simp [escapeComment, commentStyle, textLiteral]
    · refine ⟨textLiteral text, ?_, inMySQL⟩
      simp only [CommentQueue.addTable, style]
      apply String.toList_injective
      simp [escapeComment, commentStyle, textLiteral]

/-- A field whose default holds apostrophes and a backslash that stays. -/
def mottoField : Field :=
  { Field.named "motto" .string with defaultValue := some (.string "'100\\%' it's") }

/-- The default of a motto is read as it was meant, because its backslash is one that stays. -/
theorem literal_readsAs_mottoField :
    ∃ literal, TableUnit.defaultLiteral .mySQL mottoField = .ok (some literal) ∧
      ReadsAs .mySQL literal "'100\\%' it's" := by
  obtain ⟨defaults, _⟩ := literal_readsAs "'100\\%' it's"
  obtain ⟨literal, shown, reads⟩ := defaults .mySQL mottoField rfl rfl
  exact ⟨literal, shown, reads.mpr fun _ => by decide⟩

/-- A field whose default ends in a backslash. -/
def folderField : Field :=
  { Field.named "folder" .string with defaultValue := some (.string "D:\\") }

/-- A backslash at the end of a literal opens it anew, and one in it changes what it says. -/
theorem backslash_literal_not_readsAs :
    TableUnit.defaultLiteral .mySQL folderField = .ok (some "'D:\\'") ∧
      ¬ ReadsAs .mySQL "'D:\\'" "D:\\" ∧
      ((CommentQueue.start "`file`" .clause).addColumn .mySQL "folder" "D:\\new").2 =
        " COMMENT 'D:\\new'" ∧
      readLiteral .mySQL "'D:\\new'".toList = some ("D:\new", []) := by
  refine ⟨rfl, ?_, rfl, by decide +kernel⟩
  intro reads
  have unread : readLiteral .mySQL ("'D:\\'".toList ++ []) = none := by decide +kernel
  exact absurd (unread.symm.trans (reads [] nofun)) nofun

end SchemaScript.Sql
