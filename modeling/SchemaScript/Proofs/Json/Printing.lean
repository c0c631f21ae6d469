import SchemaScript.Proofs.Json.Scanning

namespace SchemaScript

/-!
# What is printed is read back

A value over several lines is read to its end, whatever follows it, and read
back as the value when its whole numbers are in range, its floating-point
numbers finite and read back in the format of the text, the names of its objects
distinct and its depth is within the limit of nesting.  Every level of the value
is read with fuel for twice the rest of the text, because a value takes up at
least one character and each character is looked at twice.
-/

namespace Json

/-- A value that a text can hold in a format of numbers. -/
inductive Writable (numbers : NumberFormat) : Json → Prop where
  | null : Writable numbers .null
  | bool (value : Bool) : Writable numbers (.bool value)
  | int {value : Int} (kept : Reader.keepsWhole value = true) : Writable numbers (.int value)
  | float
      {value : Float}
      (finite : value.isFinite = true)
      (readsBack : numbers.ReadsBack value) :
      Writable numbers (.float value)
  | string (text : String) : Writable numbers (.string text)
  | array
      {items : List Json}
      (each : ∀ item ∈ items, Writable numbers item) :
      Writable numbers (.array items)
  | object
      {members : List (String × Json)}
      (distinct : (members.map Prod.fst).Nodup)
      (each : ∀ member ∈ members, Writable numbers member.2) :
      Writable numbers (.object members)

variable {numbers : NumberFormat}

/-! ## Lines -/

/-- What follows the first part of an array or object: the other parts, and then an ending. -/
def laterParts (level : Nat) (ending : List Char) : List String → List Char
  | [] => ending
  | part :: parts =>
      ',' :: ((lineBreak level).toList ++ (part.toList ++ laterParts level ending parts))

/-- Parts between commas and line breaks, character by character. -/
theorem toList_intercalate
    (level : Nat)
    (ending : List Char)
    (part : String)
    (parts : List String) :
    (("," ++ lineBreak level).intercalate (part :: parts)).toList ++ ending =
      part.toList ++ laterParts level ending parts := by
  induction parts generalizing part with
  | nil =>
      rw [String.intercalate_singleton, laterParts]
  | cons next parts inductionHypothesis =>
      rw [String.intercalate_cons_cons, String.toList_append, List.append_assoc,
        inductionHypothesis, laterParts]
      simp

/-- Between the brackets of an empty array or object there is nothing. -/
theorem toList_indented_nil
    (level : Nat)
    (opening closing : String) :
    (indented level opening closing []).toList = opening.toList ++ closing.toList :=
  String.toList_append

/-- An array or object begins with its opening bracket. -/
theorem exists_indented
    (level : Nat)
    (opening closing : String)
    (parts : List String) :
    ∃ others, (indented level opening closing parts).toList = opening.toList ++ others := by
  unfold indented
  split
  · exact ⟨_, String.toList_append⟩
  · simp only [String.toList_append, List.append_assoc]
    exact ⟨_, rfl⟩

/-- An array or object with parts, character by character. -/
theorem toList_indented
    (level : Nat)
    (opening closing part : String)
    (parts : List String)
    (rest : List Char) :
    (indented level opening closing (part :: parts)).toList ++ rest =
      opening.toList ++
        ((lineBreak (level + 1)).toList ++
          (part.toList ++
            laterParts (level + 1) ((lineBreak level).toList ++ (closing.toList ++ rest))
              parts)) := by
  have nonempty : ¬ ((part :: parts).isEmpty = true) := by simp
  rw [← toList_intercalate]
  simp only [indented, if_neg nonempty, String.toList_append, List.append_assoc]

/-- Line breaks consist of blanks. -/
theorem isBlank_of_mem_lineBreak
    {level : Nat}
    {character : Char}
    (member : character ∈ (lineBreak level).toList) :
    Cursor.isBlank character = true := by
  rw [lineBreak, String.toList_ofList, List.mem_cons] at member
  rcases member with rfl | blank
  · rfl
  · rw [List.eq_of_mem_replicate blank]
    rfl

/-- A line break begins with one. -/
theorem exists_lineBreak
    (level : Nat) :
    ∃ blanks, (lineBreak level).toList = '\n' :: blanks :=
  ⟨_, String.toList_ofList⟩

/-- What follows a part of an array or object is not taken for more of a number. -/
theorem endsNumber_laterParts
    (level inner : Nat)
    (parts : List String)
    (closing : List Char) :
    Reader.EndsNumber (laterParts inner ((lineBreak level).toList ++ closing) parts) := by
  cases parts with
  | nil =>
      obtain ⟨blanks, isBreak⟩ := exists_lineBreak level
      rw [laterParts, isBreak]
      exact Reader.endsNumber_cons rfl
  | cons part parts =>
      exact Reader.endsNumber_cons rfl

/-- Whether a character can begin a value. -/
def beginsValue (character : Char) : Bool :=
  "ntf\"[\x7b".toList.contains character || Reader.beginsNumber character

/-- What begins a value is no blank and does not close an array. -/
theorem isBlank_of_beginsValue
    {character : Char}
    (begins : beginsValue character = true) :
    Cursor.isBlank character = false ∧ character ≠ ']' := by
  constructor
  · rw [← Bool.not_eq_true]
    intro blank
    simp only [Cursor.isBlank, Bool.or_eq_true, decide_eq_true_eq] at blank
    rcases blank with ((rfl | rfl) | rfl) | rfl <;> contradiction
  · rintro rfl
    contradiction

/-- A number ends where the text ends. -/
theorem Reader.EndsNumber.nil :
    EndsNumber [] := by
  intro character isFirst
  contradiction

/-- What begins a number begins a value. -/
theorem beginsValue_of_beginsNumber
    {character : Char}
    (begins : Reader.beginsNumber character = true) :
    beginsValue character = true := by
  rw [beginsValue, begins, Bool.or_true]

/-- Every value begins with a character that tells it from blanks and from the end of an array. -/
theorem exists_prettyAt
    (writes : numbers.WritesNumbers)
    (value : Json)
    (level : Nat) :
    ∃ first others,
      (prettyAt numbers level value).toList = first :: others ∧ beginsValue first = true := by
  cases value with
  | null =>
      exact ⟨'n', "ull".toList, by simp [prettyAt], by decide⟩
  | bool value =>
      cases value
      · exact ⟨'f', "alse".toList, by simp [prettyAt], by decide⟩
      · exact ⟨'t', "rue".toList, by simp [prettyAt], by decide⟩
  | int value =>
      obtain ⟨first, others, characters, begins⟩ :=
        Reader.exists_characters (NumberText.proper_ofInt value)
      rw [NumberText.characters_ofInt] at characters
      exact ⟨first, others, characters, beginsValue_of_beginsNumber begins⟩
  | float value =>
      cases finite : value.isFinite with
      | false =>
          refine ⟨'n', "ull".toList, ?_, by decide⟩
          rw [prettyAt, writeFloat, if_neg (Bool.eq_false_iff.mp finite)]
          rfl
      | true =>
          obtain ⟨number, written, proper, -⟩ := writes value finite
          obtain ⟨first, others, characters, begins⟩ := Reader.exists_characters proper
          refine ⟨first, others, ?_, beginsValue_of_beginsNumber begins⟩
          rw [prettyAt, writeFloat, if_pos finite, written, characters]
  | string text =>
      exact ⟨'"', _, String.toList_ofList, by decide⟩
  | array items =>
      obtain ⟨others, characters⟩ := exists_indented level "[" "]" _
      exact ⟨'[', others, characters, by decide⟩
  | object members =>
      obtain ⟨others, characters⟩ := exists_indented level "\x7b" "\x7d" _
      exact ⟨'\x7b', others, characters, by decide⟩

/-! ## Reading -/

/-- Whether a document represents a value, provided that a text can hold the value so deep. -/
def RepresentsWithin
    (numbers : NumberFormat)
    (levels : ℕ)
    (document : Document)
    (value : Json) : Prop :=
  Writable numbers value → value.toDocument.depth ≤ levels → Represents document value

/-- A value is read to its end wherever it stands, and read back. -/
def ReadBack (numbers : NumberFormat) (value : Json) : Prop :=
  ∀ (level : ℕ) {levels fuel : ℕ} {cursor : Cursor} {rest : List Char},
    cursor.skipBlanks.rest = (prettyAt numbers level value).toList ++ rest →
      2 * cursor.rest.length ≤ fuel → Reader.EndsNumber rest →
        Reader.Reads (RepresentsWithin numbers levels)
          (Reader.scanValue numbers levels fuel cursor) value rest

/-- Items that a text can hold so deep are represented one by one. -/
theorem represent_items
    {levels : ℕ}
    {documents : List Document}
    {items : List Json}
    (within : List.Forall₂ (RepresentsWithin numbers levels) documents items)
    (writable : ∀ item ∈ items, Writable numbers item)
    (shallow : Document.depthItems (documentItems items) ≤ levels) :
    List.Forall₂ Represents documents items := by
  induction within with
  | nil =>
      exact .nil
  | cons first _ inductionHypothesis =>
      rw [List.forall_mem_cons] at writable
      rw [documentItems, Document.depthItems] at shallow
      exact .cons (first writable.1 (by omega)) (inductionHypothesis writable.2 (by omega))

/-- Members that a text can hold so deep are represented one by one. -/
theorem represent_members
    {levels : ℕ}
    {documents : List (Document × Document)}
    {members : List (String × Json)}
    (within : List.Forall₂ (NamedAs (RepresentsWithin numbers levels)) documents members)
    (writable : ∀ member ∈ members, Writable numbers member.2)
    (shallow : Document.depthMembers (documentMembers members) ≤ levels) :
    List.Forall₂ (NamedAs Represents) documents members := by
  induction within with
  | nil =>
      exact .nil
  | cons first _ inductionHypothesis =>
      rw [List.forall_mem_cons] at writable
      rw [documentMembers, Document.depthMembers] at shallow
      exact
        .cons ⟨first.1, first.2 writable.1 (by omega)⟩
          (inductionHypothesis writable.2 (by omega))

/-- An array is represented when its items are one level further down. -/
theorem IsArray.within
    {levels : ℕ}
    {document : Document}
    {items : List Json}
    (isArray : levels ≠ 0 → IsArray (RepresentsWithin numbers (levels - 1)) document items) :
    RepresentsWithin numbers levels document (.array items) := by
  rintro (_ | _ | _ | _ | _ | writable) shallow
  rw [toDocument, Document.depth] at shallow
  obtain ⟨place, documents, ending, isDocument, closed, within⟩ := isArray (by omega)
  refine IsArray.represents ⟨place, documents, ending, isDocument, closed, ?_⟩
  exact represent_items within writable (by omega)

/-- An object is represented when its members are one level further down. -/
theorem IsObject.within
    {levels : ℕ}
    {document : Document}
    {members : List (String × Json)}
    (isObject : levels ≠ 0 → IsObject (RepresentsWithin numbers (levels - 1)) document members) :
    RepresentsWithin numbers levels document (.object members) := by
  rintro (_ | _ | _ | _ | _ | _ | ⟨distinct, writable⟩) shallow
  rw [toDocument, Document.depth] at shallow
  obtain ⟨place, documents, ending, isDocument, closed, within⟩ := isObject (by omega)
  refine IsObject.represents ⟨place, documents, ending, isDocument, closed, ?_⟩ distinct
  exact represent_members within writable (by omega)

/-- The line break in front of a closing mark or of a part is passed over. -/
theorem rest_skipBlanks_lineBreak
    {level : ℕ}
    {cursor : Cursor}
    {character : Char}
    {rest : List Char}
    (written : cursor.rest = (lineBreak level).toList ++ character :: rest)
    (notBlank : Cursor.isBlank character = false) :
    cursor.skipBlanks.rest = character :: rest := by
  refine Cursor.rest_skipBlanks written (fun _ => isBlank_of_mem_lineBreak) ?_
  intro first isFirst
  rwa [← Option.some.inj isFirst]

/-- A part of an array or object is found behind its comma and its line break. -/
theorem rest_part
    {level : ℕ}
    {first : Bool}
    {cursor : Cursor}
    {character : Char}
    {rest : List Char}
    (written :
      cursor.rest =
        (if first then [] else [',']) ++ ((lineBreak level).toList ++ character :: rest))
    (notBlank : Cursor.isBlank character = false) :
    cursor.skipBlanks.rest.head? = some (if first then character else ',') ∧
      (if first then cursor.skipBlanks else cursor.skipBlanks.advance 1).skipBlanks.rest =
        character :: rest ∧
      (if first then cursor.skipBlanks else cursor.skipBlanks.advance 1).rest.length ≤
        cursor.rest.length ∧
      rest.length < cursor.rest.length := by
  have shorter : rest.length < cursor.rest.length := by
    simp [written]
    omega
  cases first with
  | true =>
      have passed := rest_skipBlanks_lineBreak written notBlank
      have again := Cursor.rest_skipBlanks_cons passed notBlank
      exact ⟨by rw [passed]; rfl, again, cursor.length_skipBlanks_le, shorter⟩
  | false =>
      have passed := Cursor.rest_skipBlanks_cons written rfl
      have advanced := Cursor.rest_advance_one passed
      have found := rest_skipBlanks_lineBreak advanced notBlank
      refine ⟨by rw [passed]; rfl, found, ?_, shorter⟩
      rw [if_neg Bool.false_ne_true, advanced, written]
      simp

/-- Whatever is read takes up a character, so that there is fuel for a step. -/
theorem exists_fuel
    {cursor : Cursor}
    {character : Char}
    {others : List Char}
    {fuel : ℕ}
    (written : cursor.skipBlanks.rest = character :: others)
    (enough : 2 * cursor.rest.length ≤ fuel) :
    ∃ fewer, fuel = fewer + 1 ∧ 2 * others.length + 1 ≤ fewer := by
  have notLonger := cursor.length_skipBlanks_le
  rw [written, List.length_cons] at notLonger
  exact ⟨fuel - 1, by omega, by omega⟩

/-- What represents a value does so within any limit of nesting. -/
theorem Reader.Reads.within
    {levels : ℕ}
    {scan : Scan Document}
    {value : Json}
    {rest : List Char}
    (reads : Reads Represents scan value rest) :
    Reads (RepresentsWithin numbers levels) scan value rest :=
  ⟨reads.whole, fun _ _ => reads.value, reads.rest⟩

/-- The text of a whole number that is kept stands for it. -/
theorem represents_ofInt
    {value : Int}
    (kept : Reader.keepsWhole value = true)
    (place : Place) :
    Represents (Reader.numberDocument numbers (NumberText.ofInt value) place) (.int value) := by
  have whole :
      (NumberText.ofInt value).isWhole = true ∧
        Reader.keepsWhole (NumberText.ofInt value).wholePart = true ∧
          ((NumberText.ofInt value).negative = true → (NumberText.ofInt value).wholePart ≠ 0) := by
    rw [NumberText.wholePart_ofInt]
    refine ⟨rfl, kept, fun negative => ?_⟩
    exact (Int.ne_of_lt (of_decide_eq_true negative))
  rw [Reader.numberDocument, if_pos whole, NumberText.wholePart_ofInt, Represents, ofDocument?]

/-- The text of a number that is not whole stands for what the format reads. -/
theorem represents_float
    {number : NumberText}
    {value : Float}
    (notWhole : number.isWhole = false)
    (read : numbers.read? number = some value)
    (place : Place) :
    Represents (Reader.numberDocument numbers number place) (.float value) := by
  simp [Reader.numberDocument, notWhole, read, Represents, ofDocument?]

section Values

variable (writes : numbers.WritesNumbers)

include writes

section Parts

variable
    {level levels fuel : ℕ}
    (first : Bool)
    {cursor : Cursor}
    {after rest : List Char}

/-- An item is read back when the later ones are. -/
theorem reads_item
    {item : Json}
    {items : List Json}
    (readBack : ReadBack numbers item)
    (written :
      cursor.rest =
        (if first then [] else [',']) ++
          ((lineBreak level).toList ++ ((prettyAt numbers level item).toList ++ after)))
    (enough : 2 * cursor.rest.length ≤ fuel)
    (ends : Reader.EndsNumber after)
    (laterRead :
      ∀ later : Cursor, later.rest = after → after.length < cursor.rest.length →
        Reader.Reads (List.Forall₂ (RepresentsWithin numbers levels))
          (Reader.scanItems numbers levels fuel false later) items rest) :
    Reader.Reads (List.Forall₂ (RepresentsWithin numbers levels))
      (Reader.scanItems numbers levels (fuel + 1) first cursor) (item :: items) rest := by
  obtain ⟨character, others, characters, begins⟩ := exists_prettyAt writes item level
  obtain ⟨notBlank, notClosing⟩ := isBlank_of_beginsValue begins
  rw [characters, List.cons_append] at written
  obtain ⟨begins, found, notLonger, shorter⟩ := rest_part written notBlank
  have itemText :
      (if first then cursor.skipBlanks else cursor.skipBlanks.advance 1).skipBlanks.rest =
        (prettyAt numbers level item).toList ++ after := by
    rw [found, characters, List.cons_append]
  have itemRead :
      Reader.Reads (RepresentsWithin numbers levels)
        (Reader.scanValue numbers levels fuel
          (if first then cursor.skipBlanks else cursor.skipBlanks.advance 1))
        item after :=
    readBack level itemText (Nat.le_trans (by omega) enough) ends
  refine Reader.reads_scanItems_cons ?_ ?_ itemRead ?_
  · rw [begins]
    cases first <;> simp [notClosing]
  · rintro rfl
    exact begins
  · intro later isLater
    refine laterRead later isLater ?_
    rw [List.length_append] at shorter
    omega

/-- The items after the first one are read back, up to the end of their array. -/
theorem reads_laterItems
    {items : List Json}
    (readBack : ∀ item ∈ items, ReadBack numbers item)
    (written :
      cursor.rest =
        laterParts (level + 1) ((lineBreak level).toList ++ ']' :: rest)
          (prettyItems numbers (level + 1) items))
    (enough : 2 * cursor.rest.length + 1 ≤ fuel) :
    Reader.Reads (List.Forall₂ (RepresentsWithin numbers levels))
      (Reader.scanItems numbers levels fuel false cursor) items rest := by
  induction items generalizing fuel cursor with
  | nil =>
      obtain ⟨fewer, rfl⟩ := Nat.exists_eq_add_one_of_ne_zero (Nat.ne_zero_of_lt enough)
      exact Reader.reads_scanItems_nil (rest_skipBlanks_lineBreak written rfl)
  | cons item items inductionHypothesis =>
      obtain ⟨fewer, rfl⟩ := Nat.exists_eq_add_one_of_ne_zero (Nat.ne_zero_of_lt enough)
      rw [List.forall_mem_cons] at readBack
      refine
        reads_item writes false readBack.1 written (by omega) (endsNumber_laterParts _ _ _ _) ?_
      intro later isLater shorter
      exact inductionHypothesis readBack.2 isLater (by rw [isLater]; omega)

/-- A value is read back behind the colon and the blank after its name. -/
theorem reads_behindColon
    {value : Json}
    (readBack : ReadBack numbers value)
    (written : cursor.rest = ' ' :: ((prettyAt numbers level value).toList ++ after))
    (enough : 2 * cursor.rest.length ≤ fuel)
    (ends : Reader.EndsNumber after) :
    Reader.Reads (RepresentsWithin numbers levels)
      (Reader.scanValue numbers levels fuel cursor) value after := by
  obtain ⟨character, others, characters, begins⟩ := exists_prettyAt writes value level
  have valueText : cursor.skipBlanks.rest = (prettyAt numbers level value).toList ++ after := by
    refine
      Cursor.rest_skipBlanks (show cursor.rest = [' '] ++ _ from written)
        (by simp [Cursor.isBlank]) ?_
    intro other isFirst
    rw [characters, List.cons_append, List.head?_cons] at isFirst
    rw [← Option.some.inj isFirst]
    exact (isBlank_of_beginsValue begins).1
  exact readBack level valueText enough ends

/-- A member is read back when the later ones are. -/
theorem reads_member
    {member : String × Json}
    {members : List (String × Json)}
    (readBack : ReadBack numbers member.2)
    (written :
      cursor.rest =
        (if first then [] else [',']) ++
          ((lineBreak level).toList ++
            ((writeText member.1 ++ ": " ++ prettyAt numbers level member.2).toList ++ after)))
    (enough : 2 * cursor.rest.length ≤ fuel)
    (ends : Reader.EndsNumber after)
    (laterRead :
      ∀ later : Cursor, later.rest = after → after.length < cursor.rest.length →
        Reader.Reads (List.Forall₂ (NamedAs (RepresentsWithin numbers levels)))
          (Reader.scanMembers numbers levels fuel false later) members rest) :
    Reader.Reads (List.Forall₂ (NamedAs (RepresentsWithin numbers levels)))
      (Reader.scanMembers numbers levels (fuel + 1) first cursor) (member :: members) rest := by
  obtain ⟨name, isName⟩ : ∃ name, (writeText member.1).toList = '"' :: name :=
    ⟨_, String.toList_ofList⟩
  obtain ⟨value, isValue⟩ :
      ∃ value, value = ' ' :: ((prettyAt numbers level member.2).toList ++ after) := ⟨_, rfl⟩
  have text :
      (writeText member.1 ++ ": " ++ prettyAt numbers level member.2).toList ++ after =
        '"' :: (name ++ ':' :: value) := by
    rw [String.toList_append, String.toList_append, isName, isValue]
    simp
  rw [text] at written
  obtain ⟨begins, found, -, shorter⟩ := rest_part written rfl
  rw [List.length_append, List.length_cons] at shorter
  have valueLength :
      value.length = (prettyAt numbers level member.2).toList.length + after.length + 1 := by
    rw [isValue, List.length_cons, List.length_append]
  have named :
      (if first then cursor.skipBlanks else cursor.skipBlanks.advance 1).skipBlanks.rest =
        (writeText member.1).toList ++ ':' :: value := by
    rw [found, isName, List.cons_append]
  have heldRead (behind : Cursor) (isBehind : behind.rest = value) :
      Reader.Reads (RepresentsWithin numbers levels)
        (Reader.scanValue numbers levels fuel behind) member.2 after :=
    reads_behindColon writes readBack (isBehind.trans isValue) (by rw [isBehind]; omega) ends
  refine Reader.reads_scanMembers_cons ?_ ?_ (by omega) named heldRead ?_
  · rw [begins]
    cases first <;> simp
  · rintro rfl
    exact begins
  · intro later isLater
    exact laterRead later isLater (by omega)

/-- The members after the first one are read back, up to the end of their object. -/
theorem reads_laterMembers
    {members : List (String × Json)}
    (readBack : ∀ member ∈ members, ReadBack numbers member.2)
    (written :
      cursor.rest =
        laterParts (level + 1) ((lineBreak level).toList ++ '\x7d' :: rest)
          (prettyMembers numbers (level + 1) members))
    (enough : 2 * cursor.rest.length + 1 ≤ fuel) :
    Reader.Reads (List.Forall₂ (NamedAs (RepresentsWithin numbers levels)))
      (Reader.scanMembers numbers levels fuel false cursor) members rest := by
  induction members generalizing fuel cursor with
  | nil =>
      obtain ⟨fewer, rfl⟩ := Nat.exists_eq_add_one_of_ne_zero (Nat.ne_zero_of_lt enough)
      exact Reader.reads_scanMembers_nil (rest_skipBlanks_lineBreak written rfl)
  | cons member members inductionHypothesis =>
      obtain ⟨fewer, rfl⟩ := Nat.exists_eq_add_one_of_ne_zero (Nat.ne_zero_of_lt enough)
      rw [List.forall_mem_cons] at readBack
      refine
        reads_member writes false readBack.1 written (by omega) (endsNumber_laterParts _ _ _ _) ?_
      intro later isLater shorter
      exact inductionHypothesis readBack.2 isLater (by rw [isLater]; omega)

end Parts

/-- An array is read back when its items are. -/
theorem readBack_array
    {items : List Json}
    (readBack : ∀ item ∈ items, ReadBack numbers item) :
    ReadBack numbers (.array items) := by
  intro level levels fuel cursor rest written enough ends
  have read :
      Reader.Reads
        (fun document items =>
          levels ≠ 0 → IsArray (RepresentsWithin numbers (levels - 1)) document items)
        (Reader.scanValue numbers levels fuel cursor) items rest := by
    rw [prettyAt] at written
    cases items with
    | nil =>
        rw [prettyItems, toList_indented_nil] at written
        obtain ⟨fewer, rfl, left⟩ := exists_fuel written enough
        refine Reader.reads_scanValue_array written ?_
        intro opened isOpened
        obtain ⟨fewest, rfl⟩ := Nat.exists_eq_add_one_of_ne_zero (Nat.ne_zero_of_lt left)
        exact Reader.reads_scanItems_nil (Cursor.rest_skipBlanks_cons isOpened rfl)
    | cons item items =>
        rw [prettyItems, toList_indented] at written
        obtain ⟨fewer, rfl, left⟩ := exists_fuel written enough
        refine Reader.reads_scanValue_array written ?_
        intro opened isOpened
        rw [← isOpened] at left
        obtain ⟨fewest, rfl⟩ := Nat.exists_eq_add_one_of_ne_zero (Nat.ne_zero_of_lt left)
        rw [List.forall_mem_cons] at readBack
        refine
          reads_item writes true readBack.1 isOpened (by omega) (endsNumber_laterParts _ _ _ _) ?_
        intro later isLater shorter
        exact reads_laterItems writes readBack.2 isLater (by rw [isLater]; omega)
  exact ⟨read.whole, IsArray.within read.value, read.rest⟩

/-- A printed object is read as an object when its values are read back. -/
theorem reads_object
    {level levels fuel : ℕ}
    {cursor : Cursor}
    {rest : List Char}
    {members : List (String × Json)}
    (readBack : ∀ member ∈ members, ReadBack numbers member.2)
    (written : cursor.skipBlanks.rest = (prettyAt numbers level (.object members)).toList ++ rest)
    (enough : 2 * cursor.rest.length ≤ fuel) :
    Reader.Reads
      (fun document members =>
        levels ≠ 0 → IsObject (RepresentsWithin numbers (levels - 1)) document members)
      (Reader.scanValue numbers levels fuel cursor) members rest := by
  rw [prettyAt] at written
  cases members with
  | nil =>
      rw [prettyMembers, toList_indented_nil] at written
      obtain ⟨fewer, rfl, left⟩ := exists_fuel written enough
      refine Reader.reads_scanValue_object written ?_
      intro opened isOpened
      obtain ⟨fewest, rfl⟩ := Nat.exists_eq_add_one_of_ne_zero (Nat.ne_zero_of_lt left)
      exact Reader.reads_scanMembers_nil (Cursor.rest_skipBlanks_cons isOpened rfl)
  | cons member members =>
      rw [prettyMembers, toList_indented] at written
      obtain ⟨fewer, rfl, left⟩ := exists_fuel written enough
      refine Reader.reads_scanValue_object written ?_
      intro opened isOpened
      rw [← isOpened] at left
      obtain ⟨fewest, rfl⟩ := Nat.exists_eq_add_one_of_ne_zero (Nat.ne_zero_of_lt left)
      rw [List.forall_mem_cons] at readBack
      refine
        reads_member writes true readBack.1 isOpened (by omega) (endsNumber_laterParts _ _ _ _) ?_
      intro later isLater shorter
      exact reads_laterMembers writes readBack.2 isLater (by rw [isLater]; omega)

/-- An object is read back when the values of its members are. -/
theorem readBack_object
    {members : List (String × Json)}
    (readBack : ∀ member ∈ members, ReadBack numbers member.2) :
    ReadBack numbers (.object members) := by
  intro level levels fuel cursor rest written enough ends
  obtain ⟨whole, isObject, after⟩ := reads_object writes readBack written enough
  exact ⟨whole, IsObject.within isObject, after⟩

/-- A value without parts is read back when a reader in front of it finds it. -/
theorem readBack_scalar
    {value : Json}
    (reads :
      ∀ {level levels fuel : ℕ} {cursor : Cursor} {rest : List Char},
        cursor.skipBlanks.rest = (prettyAt numbers level value).toList ++ rest →
          Reader.EndsNumber rest →
            Reader.Reads (RepresentsWithin numbers levels)
              (Reader.scanValue numbers levels (fuel + 1) cursor) value rest) :
    ReadBack numbers value := by
  intro level levels fuel cursor rest written enough ends
  obtain ⟨first, others, characters, -⟩ := exists_prettyAt writes value level
  obtain ⟨fewer, rfl, -⟩ := exists_fuel (written.trans (congrArg (· ++ rest) characters)) enough
  exact reads written ends

/-- A number is read to its end, and read back if the format does so. -/
theorem readBack_float
    (value : Float) :
    ReadBack numbers (.float value) := by
  cases finite : value.isFinite with
  | false =>
      refine readBack_scalar writes fun written _ => ?_
      rw [prettyAt, writeFloat, if_neg (Bool.eq_false_iff.mp finite)] at written
      obtain ⟨whole, -, after⟩ := Reader.reads_scanValue_null written
      refine ⟨whole, ?_, after⟩
      rintro (_ | _ | _ | ⟨isFinite, _⟩)
      rw [finite] at isFinite
      contradiction
  | true =>
      refine readBack_scalar writes fun written ends => ?_
      rw [prettyAt, writeFloat, if_pos finite] at written
      by_cases readsBack : numbers.ReadsBack value
      · obtain ⟨number, characters, proper, notWhole, read⟩ := readsBack
        rw [characters] at written
        exact
          Reader.reads_scanValue_number written proper ends
            fun place _ _ => represents_float notWhole read place
      · obtain ⟨number, characters, proper, -⟩ := writes value finite
        rw [characters] at written
        refine Reader.reads_scanValue_number written proper ends ?_
        rintro place (_ | _ | _ | ⟨_, isReadBack⟩)
        exact (readsBack isReadBack).elim

end Values

mutual

/-- Every value is read to its end wherever it is printed, and read back if a text can hold it. -/
theorem readBack (writes : numbers.WritesNumbers) : ∀ value : Json, ReadBack numbers value
  | .null => readBack_scalar writes fun written _ => (Reader.reads_scanValue_null written).within
  | .bool _ => readBack_scalar writes fun written _ => (Reader.reads_scanValue_bool written).within
  | .int value => by
      refine readBack_scalar writes fun written ends => ?_
      rw [prettyAt, ← NumberText.characters_ofInt] at written
      refine Reader.reads_scanValue_number written (NumberText.proper_ofInt value) ends ?_
      rintro place (_ | _ | kept) _
      exact represents_ofInt kept place
  | .float value => readBack_float writes value
  | .string _ =>
      readBack_scalar writes fun written _ => (Reader.reads_scanValue_string written).within
  | .array items => readBack_array writes (readBack_items writes items)
  | .object members => readBack_object writes (readBack_members writes members)
termination_by structural value => value

/-- All items of a list are read back. -/
theorem readBack_items
    (writes : numbers.WritesNumbers) :
    ∀ items : List Json, ∀ item ∈ items, ReadBack numbers item
  | [] => List.forall_mem_nil _
  | item :: items =>
      List.forall_mem_cons.mpr ⟨readBack writes item, readBack_items writes items⟩
termination_by structural items => items

/-- The values of all members are read back. -/
theorem readBack_members
    (writes : numbers.WritesNumbers) :
    ∀ members : List (String × Json), ∀ member ∈ members, ReadBack numbers member.2
  | [] => List.forall_mem_nil _
  | (_, value) :: members =>
      List.forall_mem_cons.mpr ⟨readBack writes value, readBack_members writes members⟩
termination_by structural members => members

end

/-! ## Whole texts -/

/-- The text of a value is read as one document, with nothing after it. -/
theorem exists_scan_prettyIn
    (writes : numbers.WritesNumbers)
    {Content : Type}
    {represents : Document → Content → Prop}
    {value : Json}
    {content : Content}
    {levels : ℕ}
    (reads :
      ∀ {fuel : ℕ} {cursor : Cursor},
        cursor.skipBlanks.rest = (prettyAt numbers 0 value).toList ++ [] →
          2 * cursor.rest.length ≤ fuel →
            Reader.Reads represents (Reader.scanValue numbers levels fuel cursor) content []) :
    ∃ document,
      Reader.scan numbers levels (value.prettyIn numbers) = (document, none) ∧
        represents document content := by
  obtain ⟨text, isText⟩ : ∃ text, value.prettyIn numbers = text := ⟨_, rfl⟩
  have started :
      (Cursor.start text).skipBlanks.rest = (prettyAt numbers 0 value).toList ++ [] := by
    obtain ⟨first, others, characters, begins⟩ := exists_prettyAt writes value 0
    rw [← isText, List.append_nil, characters]
    exact Cursor.rest_skipBlanks_cons characters (isBlank_of_beginsValue begins).1
  obtain ⟨root, isRoot⟩ :
      ∃ root,
        Reader.scanValue numbers levels (2 * text.toList.length + 2) (Cursor.start text) = root :=
    ⟨_, rfl⟩
  have read : Reader.Reads represents root content [] := by
    rw [← isRoot]
    exact reads started (Nat.le_add_right _ 2)
  have nothingLeft := root.cursor.length_skipBlanks_le
  rw [read.rest, List.length_nil, Nat.le_zero, List.length_eq_zero_iff] at nothingLeft
  refine ⟨root.value, ?_, read.value⟩
  simp only [Reader.scan, isText, isRoot]
  exact if_neg (by simp [nothingLeft])

/-- What is printed in a format is read back in it. -/
theorem Writable.readIn?_prettyIn
    (writes : numbers.WritesNumbers)
    {value : Json}
    {levels : ℕ}
    (writable : Writable numbers value)
    (shallow : value.toDocument.depth ≤ levels) :
    readIn? numbers levels (value.prettyIn numbers) = some value := by
  obtain ⟨document, scanned, represents⟩ :=
    exists_scan_prettyIn writes fun written enough => readBack writes value 0 written enough .nil
  rw [readIn?, scanned]
  exact represents writable shallow

/--
What is read from a printed object, if anything is, has its members by name and
in order, and a value that a text can hold under each name that had one.
-/
theorem exists_of_readIn?_prettyIn_object
    (writes : numbers.WritesNumbers)
    {members : List (String × Json)}
    {found : Json}
    {levels : ℕ}
    (opens : levels ≠ 0)
    (distinct : (members.map Prod.fst).Nodup)
    (read : readIn? numbers levels ((Json.object members).prettyIn numbers) = some found) :
    ∃ kept,
      found = .object kept ∧
        List.Forall₂
          (fun known member =>
            known.1 = member.1 ∧
              (Writable numbers member.2 → member.2.toDocument.depth < levels →
                known.2 = member.2))
          kept members := by
  obtain ⟨document, scanned, isObject⟩ :
      ∃ document,
        Reader.scan numbers levels ((Json.object members).prettyIn numbers) = (document, none) ∧
          (levels ≠ 0 → IsObject (RepresentsWithin numbers (levels - 1)) document members) :=
    exists_scan_prettyIn writes fun written enough =>
      reads_object writes (readBack_members writes members) written enough
  obtain ⟨place, documents, ending, rfl, closed, named⟩ := isObject opens
  simp only [readIn?, scanned, ofDocument?, closed, if_true] at read
  obtain ⟨all, allRead, rfl⟩ := Option.map_eq_some_iff.mp read
  have allDistinct : (([] ++ members).map Prod.fst).Nodup := distinct
  obtain ⟨kept, rfl, same⟩ := exists_of_ofMembers? named allDistinct allRead
  refine ⟨_, rfl, same.imp ?_⟩
  rintro known member ⟨sameName, document, within, represents⟩
  refine ⟨sameName, fun writable shallow => ?_⟩
  have original := within writable (Nat.le_sub_one_of_lt shallow)
  rw [Represents] at represents original
  exact Option.some.inj (represents.symm.trans original)

end Json

end SchemaScript
