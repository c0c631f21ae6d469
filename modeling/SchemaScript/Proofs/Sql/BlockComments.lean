import SchemaScript.Sql.Comment

/-!
# Where block comments end

A block comment ends where a slash follows a star.  What is said in one is taken
apart there by blanks, which makes no new end, neither inside nor with what
follows.  A comment in a definition therefore ends with its last two characters
and not before.
-/

namespace SchemaScript.Sql

open Database

/-! ## Ends -/

/-- A block comment ends at a place in a text: a star stands there, and then a slash. -/
def EndsAt (text : List Char) (place : Nat) : Prop :=
  ['*', '/'] <+: text.drop place

instance (text : List Char) (place : Nat) : Decidable (EndsAt text place) :=
  inferInstanceAs (Decidable (['*', '/'] <+: text.drop place))

/-- A text followed by another one ends no block comment before the other one does. -/
def EndsLater (text after : List Char) : Prop :=
  ∀ place, EndsAt (text ++ after) place ↔
    ∃ later, place = text.length + later ∧ EndsAt after later

variable {character : Char} {text after : List Char}

theorem endsAt_cons_zero :
    EndsAt (character :: text) 0 ↔ character = '*' ∧ text.head? = some '/' := by
  cases text with
  | nil =>
      simp [EndsAt]
  | cons next rest =>
      simp [EndsAt, eq_comm]

theorem endsAt_cons_succ
    {place : Nat} :
    EndsAt (character :: text) (place + 1) ↔ EndsAt text place :=
  Iff.rfl

theorem endsLater_nil : EndsLater [] after := by
  intro place
  simp

/-- A character ends no comment either, unless it is a star before a slash. -/
theorem EndsLater.cons
    (ends : EndsLater text after)
    (noSlash : character = '*' → (text ++ after).head? ≠ some '/') :
    EndsLater (character :: text) after := by
  intro place
  cases place with
  | zero =>
      rw [List.cons_append, endsAt_cons_zero, List.length_cons]
      constructor
      · rintro ⟨isStar, slashFollows⟩
        exact absurd slashFollows (noSlash isStar)
      · rintro ⟨later, impossible, _⟩
        omega
  | succ before =>
      rw [List.cons_append, endsAt_cons_succ, ends before, List.length_cons]
      constructor
      · rintro ⟨later, rfl, endsThere⟩
        exact ⟨later, by omega, endsThere⟩
      · rintro ⟨later, same, endsThere⟩
        exact ⟨later, by omega, endsThere⟩

/-! ## What is said in comments -/

/-- Taking ends apart keeps the first character. -/
theorem head?_openBlockEnds :
    (openBlockEnds text).head? = text.head? := by
  cases text using openBlockEnds.fun_cases with
  | case1 rest =>
      rw [openBlockEnds]
      rfl
  | case2 first rest noEnd =>
      rw [openBlockEnds]
      · rfl
      · exact noEnd
  | case3 =>
      rfl

/-- A text whose ends are taken apart ends no comment, unless a slash follows it. -/
theorem endsLater_openBlockEnds
    (noSlash : after.head? ≠ some '/') :
    EndsLater (openBlockEnds text) after := by
  induction text using openBlockEnds.induct with
  | case1 rest inductionHypothesis =>
      -- the star, the blank after it, and the slash
      rw [openBlockEnds]
      have atSlash : EndsLater ('/' :: openBlockEnds rest) after :=
        inductionHypothesis.cons (by simp)
      have atBlank : EndsLater (' ' :: '/' :: openBlockEnds rest) after :=
        atSlash.cons (by simp)
      exact atBlank.cons (by simp)
  | case2 first rest noEnd inductionHypothesis =>
      rw [openBlockEnds]
      · apply inductionHypothesis.cons
        intro isStar
        cases rest with
        | nil =>
            simpa [openBlockEnds] using noSlash
        | cons second later =>
            have noSlashNext : second ≠ '/' := by
              rintro rfl
              exact noEnd later isStar rfl
            rw [List.head?_append, head?_openBlockEnds]
            simpa using noSlashNext
      · exact noEnd
  | case3 =>
      exact endsLater_nil

/-- Nothing but blanks is added where ends are taken apart. -/
theorem filter_openBlockEnds :
    (openBlockEnds text).filter (· ≠ ' ') = text.filter (· ≠ ' ') := by
  induction text using openBlockEnds.induct with
  | case1 rest inductionHypothesis =>
      rw [openBlockEnds]
      simpa using inductionHypothesis
  | case2 first rest noEnd inductionHypothesis =>
      rw [openBlockEnds, List.filter_cons, List.filter_cons, inductionHypothesis]
      exact noEnd
  | case3 =>
      rfl

/-! ## Comments in definitions -/

/-- In what closes a comment the end is found after one character. -/
theorem endsAt_closing
    {place : Nat} :
    EndsAt [' ', '*', '/'] place ↔ place = 1 := by
  match place with
  | 0 => decide
  | 1 => decide
  | later + 2 =>
      constructor
      · intro endsThere
        have fits : 2 ≤ (['/'].drop later).length := endsThere.length_le
        rw [List.length_drop, List.length_singleton] at fits
        omega
      · intro impossible
        omega

/-- What opens a comment, what is said in it and what closes it have one end, the last. -/
theorem endsAt_block_iff
    {place : Nat} :
    EndsAt (' ' :: '/' :: '*' :: ' ' :: (openBlockEnds text ++ [' ', '*', '/'])) place ↔
      place = (openBlockEnds text).length + 5 := by
  have said : EndsLater (openBlockEnds text) [' ', '*', '/'] :=
    endsLater_openBlockEnds (by decide)
  have opened : EndsLater (' ' :: '/' :: '*' :: ' ' :: openBlockEnds text) [' ', '*', '/'] :=
    (((said.cons (by simp)).cons (by simp)).cons (by simp)).cons (by simp)
  refine (opened place).trans ?_
  simp only [endsAt_closing, List.length_cons]
  constructor
  · rintro ⟨_, rfl, rfl⟩
    rfl
  · rintro rfl
    exact ⟨1, rfl, rfl⟩

/--
In SQLite the comment in the definition of a column or a table is what is said,
with blanks in the ends of comments, between the marks of a block comment.
Whatever is said, the comment ends with its last two characters and at no other
place.
-/
theorem blockComment_endsLast
    {queue : CommentQueue}
    (style : queue.style = Database.sqlite.commentStyle)
    (column text : String) :
    (queue.addColumn .sqlite column text).2 =
        " /* " ++ Database.sqlite.escapeComment text ++ " */" ∧
      (queue.addTable .sqlite text).2 = " /* " ++ Database.sqlite.escapeComment text ++ " */" ∧
      (Database.sqlite.escapeComment text).toList.filter (· ≠ ' ') =
        (escapeLiteral text).toList.filter (· ≠ ' ') ∧
      ∀ place,
        EndsAt (" /* " ++ Database.sqlite.escapeComment text ++ " */").toList place ↔
          place + 2 = (" /* " ++ Database.sqlite.escapeComment text ++ " */").length := by
  have isBlock : queue.style = .block := style
  have escaped :
      (Database.sqlite.escapeComment text).toList = openBlockEnds (escapeLiteral text).toList := by
    rw [escapeComment, commentStyle, String.toList_ofList]
  refine ⟨?_, ?_, ?_, ?_⟩
  · rw [CommentQueue.addColumn, isBlock]
    rfl
  · rw [CommentQueue.addTable, isBlock]
    rfl
  · rw [escaped]
    exact filter_openBlockEnds
  · intro place
    have characters :
        (" /* " ++ Database.sqlite.escapeComment text ++ " */").toList =
          ' ' :: '/' :: '*' :: ' ' ::
            (openBlockEnds (escapeLiteral text).toList ++ [' ', '*', '/']) := by
      rw [String.toList_append, String.toList_append, escaped, List.append_assoc]
      rfl
    rw [← String.length_toList, characters, endsAt_block_iff]
    simp

/-- A comment that says ends of comments, and begins and ends like one. -/
theorem blockComment_endsLast_starsAndSlashes :
    (CommentQueue.start "team" .block).style = Database.sqlite.commentStyle ∧
      ((CommentQueue.start "team" .block).addColumn .sqlite "motto" "/ it's **/ or *//*").2 =
        " /* / it''s ** / or * //* */" ∧
      ((CommentQueue.start "team" .block).addTable .sqlite "/ it's **/ or *//*").2 =
        " /* / it''s ** / or * //* */" ∧
      ∀ place, EndsAt " /* / it''s ** / or * //* */".toList place ↔
        place + 2 = " /* / it''s ** / or * //* */".length := by
  have style : (CommentQueue.start "team" .block).style = Database.sqlite.commentStyle := rfl
  have said :
      " /* " ++ Database.sqlite.escapeComment "/ it's **/ or *//*" ++ " */" =
        " /* / it''s ** / or * //* */" := by
    apply String.toList_injective
    decide
  obtain ⟨onColumn, onTable, _, endsLast⟩ :=
    blockComment_endsLast style "motto" "/ it's **/ or *//*"
  rw [said] at onColumn onTable endsLast
  exact ⟨style, onColumn, onTable, endsLast⟩

end SchemaScript.Sql
