import SchemaScript.Proofs.Sql.Quoted
import SchemaScript.Sql.Statement

/-!
# What quoted names tell

Marks around a name are told from marks in it, because these are doubled.  A
reader therefore finds where a quoted name ends and what the name is, and so it
is with tables and lists of columns.  The statement that creates an index tells
everything about the index.
-/

namespace SchemaScript.Sql

open Database

/-! ## Names -/

variable {database : Database} {rest otherRest : List Char}

/-- A quoted name is read as the name, unless another mark follows. -/
theorem readName_quote_append
    {name : String}
    (ends : rest.head? ≠ some database.quoteMark) :
    database.readName ((database.quote name).toList ++ rest) = some (name, rest) := by
  simp [readName, readQuoted, quote, readToMark_doubleChar ends]

/-- A quoted name tells the name and where it ends, unless another mark follows. -/
theorem quote_append_inj
    {name other : String}
    (ends : rest.head? ≠ some database.quoteMark)
    (otherEnds : otherRest.head? ≠ some database.quoteMark)
    (same : (database.quote name).toList ++ rest = (database.quote other).toList ++ otherRest) :
    name = other ∧ rest = otherRest := by
  have read :
      database.readName ((database.quote name).toList ++ rest) = some (name, rest) :=
    readName_quote_append ends
  rw [same, readName_quote_append otherEnds, Option.some.injEq, Prod.mk.injEq] at read
  exact ⟨read.1.symm, read.2.symm⟩

/-- A character other than the marks of databases continues no quoted name. -/
theorem head?_ne_quoteMark
    {character : Char}
    (noMark : character ≠ '"' ∧ character ≠ '`') :
    (character :: rest).head? ≠ some database.quoteMark := by
  cases database <;> simp [quoteMark, noMark]

/-- A table's name tells the table and where it ends, if a blank follows. -/
theorem quoteTable_append_inj
    {table other : TableId}
    (same :
      (database.quoteTable table).toList ++ ' ' :: rest =
        (database.quoteTable other).toList ++ ' ' :: otherRest) :
    table = other ∧ rest = otherRest := by
  have blankEnds
      (after : List Char) :
      (' ' :: after).head? ≠ some database.quoteMark :=
    head?_ne_quoteMark (by decide)
  have pointEnds
      (after : List Char) :
      ('.' :: after).head? ≠ some database.quoteMark :=
    head?_ne_quoteMark (by decide)
  obtain ⟨namespace?, name⟩ := table
  obtain ⟨otherNamespace?, otherName⟩ := other
  cases namespace? with
  | none =>
      cases otherNamespace? with
      | none =>
          obtain ⟨rfl, sameRest⟩ := quote_append_inj (blankEnds _) (blankEnds _) same
          exact ⟨rfl, List.tail_eq_of_cons_eq sameRest⟩
      | some otherNamespace =>
          simp only [quoteTable, String.toList_append, List.append_assoc] at same
          obtain ⟨_, sameRest⟩ := quote_append_inj (blankEnds _) (pointEnds _) same
          exact absurd (List.head_eq_of_cons_eq sameRest) (by decide)
  | some namespaceName =>
      cases otherNamespace? with
      | none =>
          simp only [quoteTable, String.toList_append, List.append_assoc] at same
          obtain ⟨_, sameRest⟩ := quote_append_inj (pointEnds _) (blankEnds _) same
          exact absurd (List.head_eq_of_cons_eq sameRest) (by decide)
      | some otherNamespace =>
          simp only [quoteTable, String.toList_append, List.append_assoc] at same
          obtain ⟨rfl, sameTable⟩ := quote_append_inj (pointEnds _) (pointEnds _) same
          obtain ⟨rfl, sameRest⟩ :=
            quote_append_inj (blankEnds _) (blankEnds _) (List.tail_eq_of_cons_eq sameTable)
          exact ⟨rfl, List.tail_eq_of_cons_eq sameRest⟩

/-- What follows the first name of a list. -/
def laterNames (database : Database) (names : List String) : List Char :=
  names.flatMap fun name => ',' :: ' ' :: (database.quote name).toList

/-- A list of quoted names is its first name and the later ones. -/
theorem toList_quoteList_cons
    {first : String}
    {later : List String} :
    (database.quoteList (first :: later)).toList =
      (database.quote first).toList ++ laterNames database later := by
  induction later generalizing first with
  | nil =>
      simp [quoteList, laterNames]
  | cons second rest inductionHypothesis =>
      simp only [quoteList, List.map_cons] at inductionHypothesis
      rw [quoteList, List.map_cons, List.map_cons, String.intercalate_cons_cons,
        String.toList_append, inductionHypothesis]
      simp [laterNames]

/-- A comma or a parenthesis stands after every name of a list. -/
theorem laterNames_ends
    {names : List String} :
    (laterNames database names ++ ')' :: rest).head? ≠ some database.quoteMark := by
  cases names with
  | nil => exact head?_ne_quoteMark (by decide)
  | cons name later => exact head?_ne_quoteMark (by decide)

/-- Later names are told apart by their quoted text. -/
theorem laterNames_append_inj
    {names others : List String}
    (same :
      laterNames database names ++ ')' :: rest =
        laterNames database others ++ ')' :: otherRest) :
    names = others ∧ rest = otherRest := by
  induction names generalizing others with
  | nil =>
      cases others with
      | nil =>
          exact ⟨rfl, List.tail_eq_of_cons_eq same⟩
      | cons other later =>
          exact absurd (List.head_eq_of_cons_eq same) (by decide)
  | cons name later inductionHypothesis =>
      cases others with
      | nil =>
          exact absurd (List.head_eq_of_cons_eq same) (by decide)
      | cons other otherLater =>
          have sameNames :
              (database.quote name).toList ++ (laterNames database later ++ ')' :: rest) =
                (database.quote other).toList ++
                  (laterNames database otherLater ++ ')' :: otherRest) := by
            simpa [laterNames] using same
          obtain ⟨rfl, sameLater⟩ := quote_append_inj laterNames_ends laterNames_ends sameNames
          obtain ⟨rfl, sameRest⟩ := inductionHypothesis sameLater
          exact ⟨rfl, sameRest⟩

/-- A list of names tells the names and where it ends, if a parenthesis follows. -/
theorem quoteList_append_inj
    {names others : List String}
    (same :
      (database.quoteList names).toList ++ ')' :: rest =
        (database.quoteList others).toList ++ ')' :: otherRest) :
    names = others ∧ rest = otherRest := by
  -- a name begins with a mark, so that a list with names is not taken for one without
  have notEmpty
      {first : String}
      {later : List String}
      {after otherAfter : List Char}
      (meets : ')' :: after = (database.quoteList (first :: later)).toList ++ otherAfter) :
      False := by
    simp only [toList_quoteList_cons, quote, String.toList_ofList, List.cons_append,
      List.cons.injEq] at meets
    revert meets
    cases database <;> simp [quoteMark]
  cases names with
  | nil =>
      cases others with
      | nil =>
          exact ⟨rfl, List.tail_eq_of_cons_eq same⟩
      | cons other later =>
          exact (notEmpty same).elim
  | cons name later =>
      cases others with
      | nil =>
          exact (notEmpty same.symm).elim
      | cons other otherLater =>
          rw [toList_quoteList_cons, toList_quoteList_cons, List.append_assoc,
            List.append_assoc] at same
          obtain ⟨rfl, sameLater⟩ := quote_append_inj laterNames_ends laterNames_ends same
          obtain ⟨rfl, sameRest⟩ := laterNames_append_inj sameLater
          exact ⟨rfl, sameRest⟩

/--
A quoted name is read as the name that it is, up to where it ends, so that
tables are told by their names in writing, and lists of columns too.
-/
theorem readName_quote
    (database : Database) :
    (∀ (name : String) (rest : List Char), rest.head? ≠ some database.quoteMark →
        database.readName ((database.quote name).toList ++ rest) = some (name, rest)) ∧
      Function.Injective database.quoteTable ∧
      Function.Injective database.quoteList := by
  refine ⟨fun _ _ => readName_quote_append, ?_, ?_⟩
  · intro table other same
    have followed := congrArg (fun written => written.toList ++ ' ' :: []) same
    exact (quoteTable_append_inj followed).1
  · intro names others same
    have followed := congrArg (fun written => written.toList ++ ')' :: []) same
    exact (quoteList_append_inj followed).1

/-- Names that imitate what stands between names are not taken for several names. -/
theorem readName_quote_imitations :
    Database.readName .postgreSQL
        ((Database.quote .postgreSQL "play\".\"game").toList ++ ".\"id\"".toList) =
      some ("play\".\"game", ".\"id\"".toList) ∧
      Database.quoteTable .postgreSQL (.unqualified "play\".\"game") ≠
        Database.quoteTable .postgreSQL (.within (some "play") "game") ∧
      Database.quoteList .mySQL ["home`, `guest"] ≠ Database.quoteList .mySQL ["home", "guest"] := by
  obtain ⟨reads, tables, _⟩ := readName_quote .postgreSQL
  obtain ⟨_, _, lists⟩ := readName_quote .mySQL
  exact
    ⟨reads _ _ (by decide), fun same => absurd (tables same) (by decide),
      fun same => absurd (lists same) (by decide)⟩

/-! ## Indexes -/

/-- The names in the statement of an index, with the characters that end them. -/
theorem IndexDefinition.toList_sql
    {target : Target}
    {index : IndexDefinition} :
    (index.sql target).toList =
      "CREATE ".toList ++ ((if index.unique then "UNIQUE " else "").toList ++
        ("INDEX ".toList ++ (target.indexGuard.toList ++
          ((target.database.quote index.name).toList ++ ' ' :: 'O' :: 'N' :: ' ' ::
            ((target.database.quoteTable index.table).toList ++ ' ' :: '(' ::
              ((target.database.quoteList index.columns).toList ++ ')' :: [';'])))))) := by
  unfold sql sqlOn
  simp

/-- An index is known by the statement that creates it. -/
theorem IndexDefinition.sql_injective
    {target : Target} :
    Function.Injective fun index : IndexDefinition => index.sql target := by
  intro index other same
  obtain ⟨name, table, columns, unique⟩ := index
  obtain ⟨otherName, otherTable, otherColumns, otherUnique⟩ := other
  have characters := congrArg String.toList same
  simp only [toList_sql, List.append_cancel_left_eq] at characters
  have sameUnique : unique = otherUnique := by
    cases unique <;> cases otherUnique <;> simp at characters ⊢
  subst sameUnique
  simp only [List.append_cancel_left_eq] at characters
  obtain ⟨rfl, sameTable⟩ :=
    quote_append_inj (head?_ne_quoteMark (by decide)) (head?_ne_quoteMark (by decide)) characters
  simp only [List.cons.injEq, true_and] at sameTable
  obtain ⟨rfl, sameColumns⟩ := quoteTable_append_inj sameTable
  simp only [List.cons.injEq, true_and] at sameColumns
  obtain ⟨rfl, _⟩ := quoteList_append_inj sameColumns
  rfl

end SchemaScript.Sql
