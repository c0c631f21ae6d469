import Mathlib.Algebra.GroupWithZero.Nat
import SchemaScript.Script

/-!
# Lines that end in a semicolon

Statements stand on lines of their own and end in a semicolon, so that the
lines of a script which end in one are those of its statements.  A statement
has at least one such line, its last one, and no more than it has semicolons.
-/

namespace SchemaScript.Script

/-- A line ends in a semicolon. -/
def endsInSemicolon (line : List Char) : Bool :=
  line.getLast? == some ';'

/-- How many lines of a text end in a semicolon. -/
def endings (text : String) : Nat :=
  (linesOf text).countP endsInSemicolon

/-- The count of a script is the count of its lines that end in a semicolon. -/
theorem statementCount_eq_endings
    {script : Script} :
    script.statementCount = endings script.sql :=
  rfl

/-! ## Lines -/

/-- The last part of a joined text follows one more separator. -/
theorem intercalate_concat
    {separator : Char}
    {earlier : List (List Char)}
    (someEarlier : earlier ≠ [])
    (last : List Char) :
    [separator].intercalate (earlier ++ [last]) =
      [separator].intercalate earlier ++ separator :: last := by
  induction earlier with
  | nil =>
      exact absurd rfl someEarlier
  | cons first rest inductionHypothesis =>
      cases rest with
      | nil =>
          simp [List.intercalate_cons_cons]
      | cons second others =>
          have joined := inductionHypothesis (List.cons_ne_nil _ _)
          rw [List.cons_append, List.intercalate_cons_of_ne_nil (by simp), joined,
            List.intercalate_cons_of_ne_nil (List.cons_ne_nil _ _)]
          simp

/-- All lines of a text but the last one are what stands before line breaks. -/
theorem exists_lines
    (text : String) :
    ∃ earlier last, text.toList.splitOn '\n' = earlier ++ [last] ∧
      linesOf text = earlier.map dropReturn ++ [last] := by
  obtain ⟨earlier, last, split⟩ :=
    (List.eq_nil_or_concat _).resolve_left (List.splitOn_ne_nil '\n' text.toList)
  rw [List.concat_eq_append] at split
  refine ⟨earlier, last, split, ?_⟩
  rw [linesOf, split]
  simp

/-- The last line of a text ends in the semicolon that the text ends in. -/
theorem endsInSemicolon_last
    {text : String}
    (ends : text.toList.getLast? = some ';')
    {earlier : List (List Char)}
    {last : List Char}
    (split : text.toList.splitOn '\n' = earlier ++ [last]) :
    endsInSemicolon last = true := by
  have whole : ['\n'].intercalate (earlier ++ [last]) = text.toList := by
    rw [← split, List.intercalate_splitOn]
  rw [endsInSemicolon, beq_iff_eq]
  by_cases isFirst : earlier = []
  · rw [isFirst, List.nil_append, List.intercalate_singleton] at whole
    rw [whole, ends]
  · rw [← whole, intercalate_concat isFirst, List.getLast?_append] at ends
    -- the text would end in a line break if its last line were empty
    cases last with
    | nil =>
        cases ends
    | cons character rest =>
        simpa [List.getLast?_cons_cons] using ends

/-- A line that ends in a semicolon does not end in a carriage return. -/
theorem dropReturn_of_endsInSemicolon
    {line : List Char}
    (ends : endsInSemicolon line = true) :
    dropReturn line = line := by
  rw [endsInSemicolon, beq_iff_eq] at ends
  rw [dropReturn, if_neg]
  rw [ends]
  decide

/-- A text that ends in a semicolon has a line that does. -/
theorem endings_pos
    {text : String}
    (ends : text.toList.getLast? = some ';') :
    0 < endings text := by
  obtain ⟨earlier, last, split, lines⟩ := exists_lines text
  rw [endings, lines, List.countP_append]
  simp [endsInSemicolon_last ends split]

/-- Lines are counted apart before and after the line break that follows a semicolon. -/
theorem endings_append
    {first later : String}
    (ends : first.toList.getLast? = some ';') :
    endings (first ++ "\n" ++ later) = endings first + endings later := by
  obtain ⟨firstEarlier, firstLast, firstSplit, firstLines⟩ := exists_lines first
  obtain ⟨laterEarlier, laterLast, laterSplit, laterLines⟩ := exists_lines later
  obtain ⟨earlier, last, split, lines⟩ := exists_lines (first ++ "\n" ++ later)
  have together :
      (first ++ "\n" ++ later).toList.splitOn '\n' =
        (firstEarlier ++ [firstLast] ++ laterEarlier) ++ [laterLast] := by
    have characters :
        (first ++ "\n" ++ later).toList = first.toList ++ '\n' :: later.toList := by
      simp
    rw [characters, List.splitOn_append_cons_self, firstSplit, laterSplit]
    simp
  obtain ⟨rfl, sameLast⟩ := List.append_inj' (split.symm.trans together) rfl
  cases sameLast
  have kept := dropReturn_of_endsInSemicolon (endsInSemicolon_last ends firstSplit)
  rw [endings, endings, endings, lines, firstLines, laterLines, List.map_append,
    List.map_append, List.map_singleton, kept]
  simp only [List.countP_append]
  omega

/-- Lines of texts that end in semicolons are counted text by text. -/
theorem endings_intercalate
    {texts : List String}
    (allEnd : ∀ text ∈ texts, text.toList.getLast? = some ';') :
    endings ("\n".intercalate texts) = (texts.map endings).sum := by
  induction texts with
  | nil =>
      rfl
  | cons first later inductionHypothesis =>
      obtain ⟨firstEnds, laterEnd⟩ := List.forall_mem_cons.mp allEnd
      cases later with
      | nil =>
          simp
      | cons second rest =>
          rw [String.intercalate_cons_of_ne_nil (List.cons_ne_nil _ _), endings_append firstEnds,
            inductionHypothesis laterEnd, List.map_cons (l := second :: rest), List.sum_cons]

/-! ## Lines and semicolons -/

/-- The semicolons of some lines are those of the text with these lines. -/
theorem count_intercalate
    (lines : List (List Char)) :
    (['\n'].intercalate lines).count ';' = (lines.map (List.count ';')).sum := by
  induction lines with
  | nil =>
      rfl
  | cons first later inductionHypothesis =>
      cases later with
      | nil =>
          simp
      | cons second rest =>
          rw [List.intercalate_cons_of_ne_nil (List.cons_ne_nil _ _), List.count_append,
            List.count_append, inductionHypothesis, List.map_cons (a := first), List.sum_cons]
          rfl

/-- As many items pass as their sizes allow, if what passes has a positive size. -/
theorem countP_le_sum
    {α : Type}
    {passes : α → Bool}
    {size : α → Nat}
    (sized : ∀ item, passes item = true → 0 < size item)
    (items : List α) :
    items.countP passes ≤ (items.map size).sum := by
  induction items with
  | nil =>
      exact Nat.le_refl _
  | cons item later inductionHypothesis =>
      rw [List.countP_cons, List.map_cons, List.sum_cons]
      have ofItem : (if passes item = true then 1 else 0) ≤ size item := by
        split
        · next itemPasses => exact sized item itemPasses
        · exact Nat.zero_le _
      omega

/-- A line that ends in a semicolon holds one, and so does the line with its carriage return. -/
theorem count_pos_of_endsInSemicolon
    {line : List Char}
    (ends : endsInSemicolon (dropReturn line) = true ∨ endsInSemicolon line = true) :
    0 < line.count ';' := by
  simp only [endsInSemicolon, beq_iff_eq] at ends
  rw [List.count_pos_iff]
  rcases ends with dropped | whole
  · have member := List.mem_of_getLast? dropped
    rw [dropReturn] at member
    split at member
    · exact List.dropLast_subset _ member
    · exact member
  · exact List.mem_of_getLast? whole

/-- No more lines end in a semicolon than there are semicolons. -/
theorem endings_le_count
    (text : String) :
    endings text ≤ text.toList.count ';' := by
  obtain ⟨earlier, last, split, lines⟩ := exists_lines text
  have semicolons :
      text.toList.count ';' = (earlier.map (List.count ';')).sum + last.count ';' := by
    have rejoined : List.intercalate ['\n'] (text.toList.splitOn '\n') = text.toList :=
      List.intercalate_splitOn '\n'
    rw [← rejoined, split, count_intercalate]
    simp
  have ofEarlier :
      earlier.countP (endsInSemicolon ∘ dropReturn) ≤ (earlier.map (List.count ';')).sum :=
    countP_le_sum (fun _ ends => count_pos_of_endsInSemicolon (.inl ends)) earlier
  have ofLast : [last].countP endsInSemicolon ≤ ([last].map (List.count ';')).sum :=
    countP_le_sum (fun _ ends => count_pos_of_endsInSemicolon (.inr ends)) [last]
  rw [List.map_singleton, List.sum_singleton] at ofLast
  rw [endings, lines, List.countP_append, List.countP_map, semicolons]
  omega

/-- A text whose only semicolon is at its end has one line that ends in a semicolon. -/
theorem endings_eq_one
    {text : String}
    (noSemicolon : ';' ∉ text.toList) :
    endings (text ++ ";") = 1 := by
  have atLeast : 0 < endings (text ++ ";") := by
    apply endings_pos
    simp
  have atMost := endings_le_count (text ++ ";")
  rw [String.toList_append, List.count_append, List.count_eq_zero.mpr noSemicolon] at atMost
  exact Nat.le_antisymm atMost atLeast

end SchemaScript.Script
