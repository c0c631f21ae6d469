import SchemaScript.Proofs.Json.Number

namespace SchemaScript

/-!
# Scanning values

What a reader does with each kind of value that stands in front of it.  Arrays
and objects are read item by item and member by member: whatever is known of
the first one and of the later ones is known of all.  This is stated for every
relation between documents and values, because a part that does not represent
its value, being nested too deeply, is passed over all the same.
-/

/-- Blanks are passed over, and nothing else. -/
theorem Cursor.rest_skipBlanks
    {cursor : Cursor}
    {blanks rest : List Char}
    (written : cursor.rest = blanks ++ rest)
    (blank : ∀ character ∈ blanks, isBlank character = true)
    (stops : ∀ character, rest.head? = some character → isBlank character = false) :
    cursor.skipBlanks.rest = rest := by
  rw [skipBlanks, written, takeWhile_append_stops blank stops]
  exact rest_advance written rfl

/-- Nothing is passed over in front of a character that is no blank. -/
theorem Cursor.rest_skipBlanks_cons
    {cursor : Cursor}
    {character : Char}
    {rest : List Char}
    (written : cursor.rest = character :: rest)
    (notBlank : isBlank character = false) :
    cursor.skipBlanks.rest = character :: rest := by
  refine rest_skipBlanks (show cursor.rest = [] ++ character :: rest from written) (by simp) ?_
  intro first isFirst
  rwa [← Option.some.inj isFirst]

/-- Moving on by one leaves what follows the first character. -/
theorem Cursor.rest_advance_one
    {cursor : Cursor}
    {character : Char}
    {rest : List Char}
    (written : cursor.rest = character :: rest) :
    (cursor.advance 1).rest = rest := by
  rw [advance, written, List.drop_one, List.tail_cons]

/-- Passing over blanks leaves no more than there was. -/
theorem Cursor.length_skipBlanks_le
    (cursor : Cursor) :
    cursor.skipBlanks.rest.length ≤ cursor.rest.length := by
  simp [skipBlanks, advance]

namespace Json

/-! ## Documents of arrays and objects -/

/-- A list has a value when its items have. -/
theorem ofItems?_of_represents
    {documents : List Document}
    {items : List Json}
    (represent : List.Forall₂ Represents documents items) :
    ofItems? documents = some items := by
  induction represent with
  | nil =>
      rfl
  | cons first _ inductionHypothesis =>
      rw [ofItems?, show ofDocument? _ = some _ from first, inductionHypothesis]

/-- A document that is an array, read to its end, and whose items are read for some values. -/
def IsArray (represents : Document → Json → Prop) (document : Document) (items : List Json) :
    Prop :=
  ∃ place documents ending,
    document = .array place documents ending ∧ ending.closed = true ∧
      List.Forall₂ represents documents items

/-- An array whose items are represented is represented. -/
theorem IsArray.represents
    {document : Document}
    {items : List Json}
    (isArray : IsArray Represents document items) :
    Represents document (.array items) := by
  obtain ⟨place, documents, ending, rfl, closed, represent⟩ := isArray
  rw [Represents, ofDocument?, if_pos closed, ofItems?_of_represents represent, Option.map_some]

/-- Whether a name and a document are read from a text as a member, given how values are read. -/
def NamedAs
    (represents : Document → Json → Prop)
    (document : Document × Document)
    (member : String × Json) : Prop :=
  document.1.text? = some member.1 ∧ represents document.2 member.2

/-- What represents a text holds it. -/
theorem text?_of_represents
    {document : Document}
    {text : String}
    (represents : Represents document (.string text)) :
    document.text? = some text := by
  rw [Represents] at represents
  cases document with
  | string place held =>
      rw [ofDocument?, Option.some.injEq, Json.string.injEq] at represents
      rw [Document.text?, represents]
  | array place items ending =>
      rw [ofDocument?] at represents
      split at represents <;> simp at represents
  | object place members ending =>
      rw [ofDocument?] at represents
      split at represents <;> simp at represents
  | _ =>
      simp [ofDocument?] at represents

/-- A member of a new name comes last. -/
theorem putMember_of_notMem
    {name : String}
    {value : Json}
    {members : List (String × Json)}
    (fresh : name ∉ members.map Prod.fst) :
    putMember name value members = members ++ [(name, value)] := by
  induction members with
  | nil =>
      rfl
  | cons member members inductionHypothesis =>
      obtain ⟨known, held⟩ := member
      rw [List.map_cons, List.mem_cons, not_or] at fresh
      rw [putMember, if_neg (Ne.symm fresh.1), inductionHypothesis fresh.2, List.cons_append]

/-- A member of a known name takes the place of the one before. -/
theorem map_fst_putMember_of_mem
    {name : String}
    {value : Json}
    {members : List (String × Json)}
    (isKnown : name ∈ members.map Prod.fst) :
    (putMember name value members).map Prod.fst = members.map Prod.fst := by
  induction members with
  | nil =>
      contradiction
  | cons member members inductionHypothesis =>
      obtain ⟨known, held⟩ := member
      rw [putMember]
      split
      · rfl
      next other =>
        rw [List.map_cons, List.mem_cons] at isKnown
        rw [List.map_cons, List.map_cons,
          inductionHypothesis (isKnown.resolve_left (Ne.symm other))]

/-- The names of an object stay distinct when a member is put into it. -/
theorem nodup_putMember
    {name : String}
    {value : Json}
    {members : List (String × Json)}
    (distinct : (members.map Prod.fst).Nodup) :
    ((putMember name value members).map Prod.fst).Nodup := by
  by_cases isKnown : name ∈ members.map Prod.fst
  · rwa [map_fst_putMember_of_mem isKnown]
  · rw [putMember_of_notMem isKnown, List.map_append, List.map_singleton, ← List.concat_eq_append]
    exact distinct.concat isKnown

/-- The names of members stay distinct as they are put together. -/
theorem nodup_of_ofMembers?
    {documents : List (Document × Document)}
    {known members : List (String × Json)}
    (read : ofMembers? known documents = some members)
    (distinct : (known.map Prod.fst).Nodup) :
    (members.map Prod.fst).Nodup := by
  induction documents generalizing known with
  | nil =>
      rw [ofMembers?, Option.some.injEq] at read
      rwa [← read]
  | cons document documents inductionHypothesis =>
      rw [ofMembers?] at read
      split at read
      · exact inductionHypothesis read (nodup_putMember distinct)
      · contradiction

/-- The names of an object that was read are distinct. -/
theorem nodup_of_represents
    {document : Document}
    {members : List (String × Json)}
    (represents : Represents document (.object members)) :
    (members.map Prod.fst).Nodup := by
  rw [Represents] at represents
  cases document with
  | object place documents ending =>
      rw [ofDocument?] at represents
      split at represents
      · obtain ⟨all, allRead, same⟩ := Option.map_eq_some_iff.mp represents
        rw [Json.object.injEq] at same
        exact same ▸ nodup_of_ofMembers? allRead List.nodup_nil
      · contradiction
  | array place items ending =>
      rw [ofDocument?] at represents
      split at represents <;> simp at represents
  | _ =>
      simp [ofDocument?] at represents

/-- No text is read as an object with a name twice. -/
theorem nodup_of_readIn?
    {numbers : NumberFormat}
    {levels : ℕ}
    {text : String}
    {members : List (String × Json)}
    (isRead : readIn? numbers levels text = some (.object members)) :
    (members.map Prod.fst).Nodup := by
  rw [readIn?] at isRead
  split at isRead
  · exact nodup_of_represents isRead
  · contradiction

/-- The name in front of distinct names is new, and the names stay distinct once it is known. -/
theorem distinct_cons
    {member : String × Json}
    {members known : List (String × Json)}
    (distinct : ((known ++ member :: members).map Prod.fst).Nodup)
    (value : Json) :
    member.1 ∉ known.map Prod.fst ∧
      ((known ++ [(member.1, value)] ++ members).map Prod.fst).Nodup := by
  constructor
  · rw [List.map_append, List.nodup_append] at distinct
    intro isKnown
    exact distinct.2.2 _ isKnown _ List.mem_cons_self rfl
  · simpa only [List.map_append, List.map_cons, List.map_nil, List.append_assoc,
      List.singleton_append] using distinct

/-- Members with distinct names are all kept, and in their order. -/
theorem ofMembers?_of_represents
    {documents : List (Document × Document)}
    {members known : List (String × Json)}
    (represent : List.Forall₂ (NamedAs Represents) documents members)
    (distinct : ((known ++ members).map Prod.fst).Nodup) :
    ofMembers? known documents = some (known ++ members) := by
  induction represent generalizing known with
  | nil =>
      rw [ofMembers?, List.append_nil]
  | @cons first member documents members represents _ inductionHypothesis =>
      obtain ⟨fresh, laterDistinct⟩ := distinct_cons distinct member.2
      rw [ofMembers?, represents.1, show ofDocument? first.2 = some member.2 from represents.2]
      simp only [putMember_of_notMem fresh]
      rw [inductionHypothesis laterDistinct, List.append_assoc, List.singleton_append]

/-- The members that are kept of members with distinct names have their names, in their order. -/
theorem exists_of_ofMembers?
    {represents : Document → Json → Prop}
    {documents : List (Document × Document)}
    {members known all : List (String × Json)}
    (named : List.Forall₂ (NamedAs represents) documents members)
    (distinct : ((known ++ members).map Prod.fst).Nodup)
    (read : ofMembers? known documents = some all) :
    ∃ kept,
      all = known ++ kept ∧
        List.Forall₂
          (fun found member =>
            found.1 = member.1 ∧
              ∃ document, represents document member.2 ∧ Represents document found.2)
          kept members := by
  induction named generalizing known with
  | nil =>
      rw [ofMembers?, Option.some.injEq] at read
      exact ⟨[], by rw [List.append_nil, read], .nil⟩
  | @cons first member documents members named _ inductionHypothesis =>
      rw [ofMembers?, named.1] at read
      cases held : ofDocument? first.2 with
      | none =>
          rw [held] at read
          contradiction
      | some value =>
          obtain ⟨fresh, laterDistinct⟩ := distinct_cons distinct value
          simp only [held, putMember_of_notMem fresh] at read
          obtain ⟨kept, isAll, later⟩ := inductionHypothesis laterDistinct read
          refine ⟨(member.1, value) :: kept, ?_, .cons ⟨rfl, first.2, named.2, held⟩ later⟩
          rw [isAll, List.append_assoc, List.singleton_append]

/-- A document that is an object, read to its end, and whose members are read for some others. -/
def IsObject
    (represents : Document → Json → Prop)
    (document : Document)
    (members : List (String × Json)) : Prop :=
  ∃ place documents ending,
    document = .object place documents ending ∧ ending.closed = true ∧
      List.Forall₂ (NamedAs represents) documents members

/-- An object whose members have distinct names and are represented is represented. -/
theorem IsObject.represents
    {document : Document}
    {members : List (String × Json)}
    (isObject : IsObject Represents document members)
    (distinct : (members.map Prod.fst).Nodup) :
    Represents document (.object members) := by
  obtain ⟨place, documents, ending, rfl, closed, represent⟩ := isObject
  have all : ofMembers? [] documents = some ([] ++ members) :=
    ofMembers?_of_represents represent distinct
  rw [Represents, ofDocument?, if_pos closed, all, List.nil_append, Option.map_some]

namespace Reader

variable
    {numbers : NumberFormat}
    {represents : Document → Json → Prop}
    {levels fuel : ℕ}
    {first : Bool}
    {cursor : Cursor}
    {rest : List Char}

/-! ## Scalars -/

/-- A word that stands for a value is read. -/
theorem reads_scanWord
    {word : String}
    {document : Document}
    {value : Json}
    (written : cursor.rest = word.toList ++ rest)
    (represents : Represents document value) :
    Reads Represents (scanWord cursor word document) value rest := by
  have begins : word.toList.isPrefixOf cursor.rest = true := by
    rw [List.isPrefixOf_iff_prefix, written]
    exact List.prefix_append _ _
  rw [scanWord, if_pos begins]
  exact ⟨rfl, represents, Cursor.rest_advance written String.length_toList.symm⟩

/-- Null is read. -/
theorem reads_scanValue_null
    (written : cursor.skipBlanks.rest = "null".toList ++ rest) :
    Reads Represents (scanValue numbers levels (fuel + 1) cursor) .null rest := by
  have scan :
      scanValue numbers levels (fuel + 1) cursor =
        scanWord cursor.skipBlanks "null" (.null cursor.skipBlanks.place) := by
    simp [scanValue, written]
  rw [scan]
  exact reads_scanWord written rfl

/-- A truth value is read. -/
theorem reads_scanValue_bool
    {value : Bool}
    (written : cursor.skipBlanks.rest = (if value then "true" else "false").toList ++ rest) :
    Reads Represents (scanValue numbers levels (fuel + 1) cursor) (.bool value) rest := by
  have scan :
      scanValue numbers levels (fuel + 1) cursor =
        scanWord cursor.skipBlanks (if value then "true" else "false")
          (.bool cursor.skipBlanks.place value) := by
    cases value <;> simp [scanValue, written]
  rw [scan]
  exact reads_scanWord written rfl

/-- A text between quotation marks is read. -/
theorem reads_scanValue_string
    {text : String}
    (written : cursor.skipBlanks.rest = (writeText text).toList ++ rest) :
    Reads Represents (scanValue numbers levels (fuel + 1) cursor) (.string text) rest := by
  have scan : scanValue numbers levels (fuel + 1) cursor = scanText cursor.skipBlanks := by
    simp [scanValue, written, writeText]
  rw [scan]
  exact reads_scanText written

/-- A number begins with a character by which it is known. -/
theorem exists_characters
    {number : NumberText}
    (proper : number.Proper) :
    ∃ first others, number.characters = first :: others ∧ beginsNumber first = true := by
  obtain ⟨nonempty, decimal⟩ := proper.whole
  obtain ⟨first, others, isWhole⟩ := List.exists_cons_of_ne_nil nonempty
  have isDigit : first.isDigit = true := decimal first (by simp [isWhole])
  cases negative : number.negative <;>
    simp [NumberText.characters, negative, isWhole, beginsNumber, isDigit]

/-- A number is read up to what ends it. -/
theorem reads_scanValue_number
    {number : NumberText}
    {value : Json}
    (written : cursor.skipBlanks.rest = number.characters ++ rest)
    (proper : number.Proper)
    (ends : EndsNumber rest)
    (represented : ∀ place, represents (numberDocument numbers number place) value) :
    Reads represents (scanValue numbers levels (fuel + 1) cursor) value rest := by
  obtain ⟨first, others, characters, begins⟩ := exists_characters proper
  have scan :
      scanValue numbers levels (fuel + 1) cursor = scanNumber numbers cursor.skipBlanks := by
    simp only [scanValue, written, characters, List.cons_append]
    split
    case h_7 same =>
      rw [(List.cons.inj same).1] at begins
      exact if_pos begins
    case h_8 =>
      contradiction
    all_goals
      rename_i same
      rw [(List.cons.inj same).1] at begins
      contradiction
  obtain ⟨scanned, whole, after⟩ := scanNumber_characters written proper ends
  rw [scan]
  exact ⟨whole, scanned ▸ represented _, after⟩

/-! ## Arrays -/

/-- Items and members after the first one need a comma. -/
theorem isSeparated
    {character? : Option Char}
    (comma : first = false → character? = some ',') :
    ¬ ((!first) = true ∧ character? ≠ some ',') := by
  intro unseparated
  rw [Bool.not_eq_true'] at unseparated
  exact unseparated.2 (comma unseparated.1)

/-- A closing bracket ends the items of an array. -/
theorem reads_scanItems_nil
    (closes : cursor.skipBlanks.rest = ']' :: rest) :
    Reads (List.Forall₂ represents) (scanItems numbers levels (fuel + 1) first cursor) [] rest := by
  have closed : cursor.skipBlanks.rest.head? = some ']' := by rw [closes, List.head?_cons]
  simp only [scanItems, closed, if_true]
  exact ⟨rfl, .nil, Cursor.rest_advance_one closes⟩

/-- An item in front and what follows it are the items of an array. -/
theorem reads_scanItems_cons
    {item : Json}
    {items : List Json}
    {after : List Char}
    (opens : cursor.skipBlanks.rest.head? ≠ some ']')
    (comma : first = false → cursor.skipBlanks.rest.head? = some ',')
    (itemRead :
      Reads represents
        (scanValue numbers levels fuel
          (if first then cursor.skipBlanks else cursor.skipBlanks.advance 1))
        item after)
    (laterRead :
      ∀ later : Cursor, later.rest = after →
        Reads (List.Forall₂ represents) (scanItems numbers levels fuel false later) items rest) :
    Reads (List.Forall₂ represents) (scanItems numbers levels (fuel + 1) first cursor)
      (item :: items) rest := by
  have separated := isSeparated comma
  have later := laterRead _ itemRead.rest
  simp only [scanItems, if_neg opens, if_neg separated, itemRead.whole, Bool.false_eq_true,
    if_false]
  exact ⟨later.whole, .cons itemRead.value later.value, later.rest⟩

/-- An array is read to its end at any depth, and opened within the limit of nesting. -/
theorem reads_scanValue_array
    {items : List Json}
    {characters : List Char}
    (begins : cursor.skipBlanks.rest = '[' :: characters)
    (itemsRead :
      ∀ opened : Cursor, opened.rest = characters →
        Reads (List.Forall₂ represents) (scanItems numbers (levels - 1) fuel true opened) items
          rest) :
    Reads (fun document items => levels ≠ 0 → IsArray represents document items)
      (scanValue numbers levels (fuel + 1) cursor) items rest := by
  have read := itemsRead _ (Cursor.rest_advance_one begins)
  simp only [scanValue, begins]
  refine ⟨read.whole, fun allowed => ?_, read.rest⟩
  rw [if_neg allowed]
  exact ⟨_, _, _, rfl, by rw [Scan.ending, read.whole]; rfl, read.value⟩

/-! ## Objects -/

/-- A closing brace ends the members of an object. -/
theorem reads_scanMembers_nil
    (closes : cursor.skipBlanks.rest = '\x7d' :: rest) :
    Reads (List.Forall₂ (NamedAs represents))
      (scanMembers numbers levels (fuel + 1) first cursor) [] rest := by
  have closed : cursor.skipBlanks.rest.head? = some '\x7d' := by rw [closes, List.head?_cons]
  simp only [scanMembers, closed, if_true]
  exact ⟨rfl, .nil, Cursor.rest_advance_one closes⟩

/-- A member in front and what follows it are the members of an object. -/
theorem reads_scanMembers_cons
    {member : String × Json}
    {members : List (String × Json)}
    {value after : List Char}
    (opens : cursor.skipBlanks.rest.head? ≠ some '\x7d')
    (comma : first = false → cursor.skipBlanks.rest.head? = some ',')
    (enough : fuel ≠ 0)
    (named :
      (if first then cursor.skipBlanks else cursor.skipBlanks.advance 1).skipBlanks.rest =
        (writeText member.1).toList ++ ':' :: value)
    (valueRead :
      ∀ behind : Cursor, behind.rest = value →
        Reads represents (scanValue numbers levels fuel behind) member.2 after)
    (laterRead :
      ∀ later : Cursor, later.rest = after →
        Reads (List.Forall₂ (NamedAs represents)) (scanMembers numbers levels fuel false later)
          members rest) :
    Reads (List.Forall₂ (NamedAs represents))
      (scanMembers numbers levels (fuel + 1) first cursor) (member :: members) rest := by
  have separated := isSeparated comma
  obtain ⟨opening, isOpening⟩ :
      ∃ opening,
        (if first then cursor.skipBlanks else cursor.skipBlanks.advance 1).skipBlanks = opening :=
    ⟨_, rfl⟩
  rw [isOpening] at named
  obtain ⟨text, isText⟩ : ∃ text, (writeText member.1).toList = '"' :: text :=
    ⟨_, String.toList_ofList⟩
  have quoted : opening.rest.head? = some '"' := by
    rw [named, isText]
    rfl
  have nameStarts : opening.skipBlanks.rest = (writeText member.1).toList ++ ':' :: value := by
    rw [isText] at named ⊢
    exact Cursor.rest_skipBlanks_cons named rfl
  have name :
      Reads Represents (scanValue numbers levels fuel opening) (.string member.1)
        (':' :: value) := by
    obtain ⟨fewer, rfl⟩ := Nat.exists_eq_add_one_of_ne_zero enough
    exact reads_scanValue_string nameStarts
  have colon := Cursor.rest_skipBlanks_cons name.rest rfl
  have held := valueRead _ (Cursor.rest_advance_one colon)
  have later := laterRead _ held.rest
  have textNamed :
      ¬ ((scanValue numbers levels fuel opening).broken = true ∨
        opening.rest.head? ≠ some '"') := by
    simp [name.whole, quoted]
  have withColon :
      ¬ (scanValue numbers levels fuel opening).cursor.skipBlanks.rest.head? ≠ some ':' := by
    simp [colon]
  simp only [scanMembers, if_neg opens, if_neg separated, isOpening, if_neg textNamed,
    if_neg withColon, held.whole, Bool.false_eq_true, if_false]
  exact
    ⟨later.whole, .cons ⟨text?_of_represents name.value, held.value⟩ later.value, later.rest⟩

/-- An object is read to its end at any depth, and opened within the limit of nesting. -/
theorem reads_scanValue_object
    {members : List (String × Json)}
    {characters : List Char}
    (begins : cursor.skipBlanks.rest = '\x7b' :: characters)
    (membersRead :
      ∀ opened : Cursor, opened.rest = characters →
        Reads (List.Forall₂ (NamedAs represents))
          (scanMembers numbers (levels - 1) fuel true opened) members rest) :
    Reads (fun document members => levels ≠ 0 → IsObject represents document members)
      (scanValue numbers levels (fuel + 1) cursor) members rest := by
  have read := membersRead _ (Cursor.rest_advance_one begins)
  simp only [scanValue, begins]
  refine ⟨read.whole, fun allowed => ?_, read.rest⟩
  rw [if_neg allowed]
  exact ⟨_, _, _, rfl, by rw [Scan.ending, read.whole]; rfl, read.value⟩

end Reader

end Json

end SchemaScript
