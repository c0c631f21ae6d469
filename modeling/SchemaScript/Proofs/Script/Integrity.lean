import SchemaScript.Proofs.Script.Creation

/-!
# The integrity of statements

A script is read as the statements that it was composed of, whatever names,
descriptions and defaults hold, as long as no default is an expression of the
database's own language, which a script takes over as it is.
-/

namespace SchemaScript

open Sql TableUnit

/-! ## Numbers -/

namespace FloatLayout

/-- A number with its point placed is made of plain characters. -/
theorem isPlain_of_mem_placed
    {digits : List Char}
    (digitsPlain : ∀ digit ∈ digits, isPlain digit = true)
    {tail : Int}
    {character : Char}
    (member : character ∈ plain.placed digits tail) :
    isPlain character = true := by
  have zerosPlain
      {count : Nat}
      (isZero : character ∈ List.replicate count '0') :
      isPlain character = true := by
    rw [List.eq_of_mem_replicate isZero]
    rfl
  simp only [placed] at member
  split at member
  · simp only [List.mem_append] at member
    rcases member with (isDigit | isZero) | inEnding
    · exact digitsPlain character isDigit
    · exact zerosPlain isZero
    · cases inEnding
  · split at member
    · simp only [List.mem_append, List.mem_cons] at member
      rcases member with isDigit | isPoint | isDigit
      · exact digitsPlain character (List.mem_of_mem_take isDigit)
      · subst isPoint
        rfl
      · exact digitsPlain character (List.mem_of_mem_drop isDigit)
    · simp only [List.cons_append, List.nil_append, List.mem_cons, List.mem_append] at member
      rcases member with isZero | isPoint | isZero | isDigit
      · subst isZero
        rfl
      · subst isPoint
        rfl
      · exact zerosPlain isZero
      · exact digitsPlain character isDigit

theorem isPlain_of_mem_positive
    {number : Binary}
    {character : Char}
    (member : character ∈ plain.positive number) :
    isPlain character = true := by
  refine isPlain_of_mem_placed ?_ member
  intro digit isDigit
  exact isPlain_of_mem_toDigits (List.mem_of_mem_take isDigit)

theorem plainText_write
    {number : Float} :
    PlainText (plain.write number) := by
  have sign
      (negative : Prop)
      [Decidable negative] :
      PlainText (if negative then "-" else "") := by
    split <;> exact plainText_word rfl
  simp only [write]
  split
  · exact plainText_word rfl
  · split
    · split <;> exact plainText_word rfl
    · split
      · apply (sign _).append
        intro character member
        rw [String.toList_ofList] at member
        exact isPlain_of_mem_positive member
      · exact (sign _).append (plainText_word rfl)

end FloatLayout

theorem plainText_toString_int
    {number : Int} :
    PlainText (toString number) := by
  cases number with
  | ofNat number =>
      exact plainText_toString
  | negSucc number =>
      have sign : PlainText "-" := plainText_word rfl
      exact sign.append plainText_toString

namespace TableUnit

/-! ## Columns -/

/-- A default is written as a plain text, as a text between marks, or as it is. -/
theorem defaultLiteral_cases
    {database : Database}
    {field : Field}
    {literal : String}
    (written : defaultLiteral database field = .ok (some literal)) :
    PlainText literal ∨
      (∃ text, field.defaultValue = some (.string text) ∧
        literal = "'" ++ Database.escapeLiteral text ++ "'") ∨
      field.defaultValue = some (.expression literal) := by
  simp only [defaultLiteral] at written
  split at written
  · cases written
  · next value holds =>
      split at written
      · cases value with
        | null => cases written; exact .inl (plainText_word rfl)
        | bool truth =>
            cases written
            cases database <;> cases truth <;> exact .inl (plainText_word rfl)
        | int number => cases written; exact .inl plainText_toString_int
        | float number =>
            simp only at written
            split at written
            · cases written
              exact .inl FloatLayout.plainText_write
            · cases written
        | string text => cases written; exact .inr (.inl ⟨text, holds, rfl⟩)
        | insertTime => cases written; cases database <;> exact .inl (plainText_word rfl)
        | updateTime => cases written
        | callable name => cases written
        | expression sql => cases written; exact .inr (.inr holds)
      · cases written

/-- A default that is shown is the literal of the field's default. -/
theorem defaultLiteral_of_shownDefault
    {database : Database}
    {field : Field}
    {literal : String}
    (shown : shownDefault database field = .ok (some literal)) :
    defaultLiteral database field = .ok (some literal) := by
  simp only [shownDefault] at shown
  split at shown
  · next found =>
      cases shown
      exact found
  · cases shown
  · cases shown

/-- Unless it is an expression, a default is written as a text that ends no statement. -/
theorem neutral_shownDefault
    {database : Database}
    {field : Field}
    (noExpression : ∀ sql, field.defaultValue ≠ some (.expression sql))
    {literal? : Option String}
    (shown : shownDefault database field = .ok literal?) :
    ∀ literal ∈ literal?, Neutral literal := by
  intro literal isLiteral
  cases isLiteral
  rcases defaultLiteral_cases (defaultLiteral_of_shownDefault shown) with
    plain | ⟨_, _, rfl⟩ | isExpression
  · exact plain.neutral
  · exact neutral_literal
  · exact absurd isExpression (noExpression literal)

/-- The type of a column does not change how a script is read. -/
theorem neutral_columnType
    {model : Model}
    {database : Database}
    {field : Field}
    {name : String}
    (named : model.columnType database field = .ok name) :
    Neutral name := by
  exact (plainText_of_typeName (Model.typeName_of_columnType named)).neutral

/-- The words of a plain body are those of the database, apart from the type and the default. -/
theorem mem_words_plain
    {sqlType word : String}
    {notNull unique primaryKey : Bool}
    {literal? : Option String}
    (member : word ∈ (ColumnBody.plain sqlType notNull unique primaryKey literal?).words) :
    word = sqlType ∨ word ∈ ["NOT NULL", "UNIQUE", "PRIMARY KEY"] ∨
      ∃ literal ∈ literal?, word = "DEFAULT " ++ literal := by
  have optional
      {condition : Bool}
      {text : String}
      (shown : word ∈ if condition then [text] else []) :
      word = text := by
    split at shown
    · exact List.mem_singleton.mp shown
    · cases shown
  simp only [ColumnBody.words, List.mem_append, List.mem_singleton, List.mem_map,
    Option.mem_toList] at member
  rcases member with (((isType | isNotNull) | isUnique) | isKey) | ⟨literal, isLiteral, rfl⟩
  · exact .inl isType
  · exact .inr (.inl (by simp [optional isNotNull]))
  · exact .inr (.inl (by simp [optional isUnique]))
  · exact .inr (.inl (by simp [optional isKey]))
  · exact .inr (.inr ⟨literal, isLiteral, rfl⟩)

/-- The words of a column are neutral when its type and its default are. -/
theorem neutral_words
    {sqlType : String}
    {notNull unique primaryKey : Bool}
    {literal? : Option String}
    (typeNeutral : Neutral sqlType)
    (literalNeutral : ∀ literal ∈ literal?, Neutral literal) :
    ∀ word ∈ (ColumnBody.plain sqlType notNull unique primaryKey literal?).words,
      Neutral word := by
  intro word member
  rcases mem_words_plain member with rfl | isFixed | ⟨literal, isLiteral, rfl⟩
  · exact typeNeutral
  · have allPlain :
        ∀ word ∈ ["NOT NULL", "UNIQUE", "PRIMARY KEY"], word.toList.all isPlain = true := by
      decide
    exact neutral_word (allPlain word isFixed)
  · exact (neutral_word rfl).append (literalNeutral literal isLiteral)

/-- What is said of a column is neutral unless an expression is copied into it. -/
theorem neutral_columnBody
    {model : Model}
    {database : Database}
    {field : Field}
    (noExpression : ∀ sql, field.defaultValue ≠ some (.expression sql))
    {body : ColumnBody}
    (found : columnBody model database field = .ok body) :
    ∀ word ∈ body.words, Neutral word := by
  rcases columnBody_cases found with ⟨clause, _, generated, rfl⟩ | ⟨_, _, named, shown, rfl⟩
  · intro word member
    rw [List.mem_singleton.mp member]
    exact (plainText_generatedKey generated).neutral
  · exact neutral_words (neutral_columnType named) (neutral_shownDefault noExpression shown)

/-- The column of a field is neutral unless an expression is copied into it. -/
theorem neutralColumn_of_columnOf
    {model : Model}
    {database : Database}
    (notMySQL : database ≠ .mySQL)
    {entity : Entity}
    {field : Field}
    (noExpression : ∀ sql, field.defaultValue ≠ some (.expression sql))
    {column : Column}
    (columnOf : ColumnOf model database entity field column) :
    NeutralColumn column where
  words := neutral_columnBody noExpression columnOf.body
  comment := by
    rw [columnOf.comment]
    exact CommentQueue.neutral_addColumn? notMySQL rfl

/-- The columns of a join table are neutral. -/
theorem neutralColumn_of_joinColumn
    {model : Model}
    {database : Database}
    {table : String}
    {relationship : Relationship}
    {side : JoinSide}
    {column : Column}
    (found : joinColumn model database table relationship side = .ok column) :
    NeutralColumn column := by
  simp only [joinColumn, bind_eq_ok_iff] at found
  obtain ⟨sqlType, named, _, _, same⟩ := found
  cases same
  have typeNeutral : Neutral sqlType := by
    simp only [Model.primaryKeyType] at named
    split at named
    · exact neutral_columnType named
    · cases named
  exact {
    words := neutral_words typeNeutral (by simp)
    comment := neutral_empty }

/-! ## Tables -/

/-- The table of an entity without expressions is neutral. -/
theorem neutralTable_of_tableOf
    {model : Model}
    {database : Database}
    (notMySQL : database ≠ .mySQL)
    {entity : Entity}
    (noExpression :
      ∀ field ∈ entity.fields, ∀ sql, field.defaultValue ≠ some (.expression sql))
    {table : TableDefinition}
    (tableOf : TableOf model database entity table) :
    NeutralTable table where
  columns := by
    intro column member
    obtain ⟨field, fieldMember, columnOf⟩ := exists_left_of_forall₂ tableOf.columns member
    exact neutralColumn_of_columnOf notMySQL (noExpression field fieldMember) columnOf
  comment := by
    rw [tableOf.comment]
    exact CommentQueue.neutral_addTable? notMySQL
      (waitsOn_queueColumns CommentQueue.waitsOn_start).style

/-- The statements of an entity's unit are read one by one. -/
theorem UnitOf.neutralStatement
    {model : Model}
    {database : Database}
    (notMySQL : database ≠ .mySQL)
    {entity : Entity}
    (noExpression :
      ∀ field ∈ entity.fields, ∀ sql, field.defaultValue ≠ some (.expression sql))
    {unit : TableUnit (List Statement)}
    (unitOf : UnitOf model database entity unit)
    {statement : Statement}
    (member : statement ∈ unit.body) :
    NeutralStatement statement := by
  obtain ⟨table, indexes, tableOf, _, _, body⟩ := unitOf.table
  rw [body] at member
  simp only [List.mem_cons, List.mem_append, List.mem_map] at member
  rcases member with isTable | ⟨index, _, rfl⟩ | ⟨text, waits, rfl⟩
  · subst isTable
    exact neutralTable_of_tableOf notMySQL noExpression tableOf
  · trivial
  · obtain ⟨style, comments⟩ := waitsOn_tableComments.statements text waits
    exact isStatement_of_commentOn notMySQL style comments

/-- The statements of a join table are read one by one. -/
theorem JoinOf.neutralStatement
    {model : Model}
    {database : Database}
    (notMySQL : database ≠ .mySQL)
    {owner : Entity}
    {relationship : Relationship}
    {join : JoinTable (List Statement)}
    (joinOf : JoinOf model database owner relationship join)
    {statement : Statement}
    (member : statement ∈ join.body) :
    NeutralStatement statement := by
  obtain ⟨_, target, columns, _, columnsFound, body⟩ := joinOf
  rw [body, joinStatements_eq] at member
  simp only [List.mem_cons, List.mem_append, List.mem_map] at member
  rcases member with isTable | ⟨index, _, rfl⟩ | ⟨text, waits, rfl⟩
  · subst isTable
    constructor
    · intro column columnMember
      obtain ⟨_, _, found⟩ := exists_left_of_forall₂ columnsFound columnMember
      exact neutralColumn_of_joinColumn found
    · exact CommentQueue.neutral_addTable? notMySQL rfl
  · trivial
  · obtain ⟨style, comments⟩ := waitsOn_joinComments.statements text waits
    exact isStatement_of_commentOn notMySQL style comments

end TableUnit

/-! ## Scripts -/

/-- Blocks with something in them stand one after another as their lines do. -/
theorem intercalate_flatMap
    {α : Type}
    {separator : String}
    {lines : α → List String}
    {blocks : List α}
    (filled : ∀ block ∈ blocks, lines block ≠ []) :
    separator.intercalate (blocks.map fun block => separator.intercalate (lines block)) =
      separator.intercalate (blocks.flatMap lines) := by
  induction blocks with
  | nil =>
      rfl
  | cons first later inductionHypothesis =>
      have laterFilled : ∀ block ∈ later, lines block ≠ [] :=
        fun block member => filled block (List.mem_cons_of_mem first member)
      have joined := inductionHypothesis laterFilled
      cases later with
      | nil =>
          simp
      | cons second rest =>
          have firstFilled : lines first ≠ [] := filled first List.mem_cons_self
          have restFilled : (second :: rest).flatMap lines ≠ [] := by
            simp [filled second]
          rw [List.map_cons, List.flatMap_cons,
            String.intercalate_cons_of_ne_nil (by simp), joined,
            String.intercalate_append_of_ne_nil firstFilled restFilled]

/-- The statements of a creation. -/
def Creation.statements : Creation → List Statement
  | .schema name => [.createNamespace name]
  | .table _ body => body

/-- A creation is written statement by statement. -/
theorem Creation.sql_eq_intercalate
    {target : Target}
    {creation : Creation} :
    creation.sql target = "\n".intercalate (creation.statements.map (Statement.sql target)) := by
  cases creation with
  | schema name => exact String.intercalate_singleton.symm
  | table created body => rfl

namespace Plan.PlanOf

variable {model : Model} {database : Database} {plan : Plan}

/-- Every table that a plan creates has a block of its own. -/
theorem tableBlock
    (planOf : PlanOf model database plan)
    {unit : TableUnit (List Statement)}
    (member : unit ∈ plan.units) :
    TableBlock database unit.id unit.body ∧
      ∀ join ∈ unit.joinTables, TableBlock database join.id join.body := by
  obtain ⟨entity, _, unitOf⟩ := planOf.entity_of_unit member
  refine ⟨unitOf.tableBlock, ?_⟩
  intro join joinMember
  obtain ⟨relationship, _, joinOf⟩ := exists_left_of_forall₂ unitOf.joinTables joinMember
  exact joinOf.tableBlock

/-- Every creation has a statement. -/
theorem statements_ne_nil
    (planOf : PlanOf model database plan)
    {creation : Creation}
    (member : creation ∈ plan.creations) :
    creation.statements ≠ [] := by
  have filled
      {id : TableId}
      {body : List Statement}
      (tableBlock : TableBlock database id body) :
      body ≠ [] := by
    obtain ⟨table, _, _, _, body⟩ := tableBlock.created
    simp [body]
  simp only [Plan.creations, List.mem_append, List.mem_map, List.mem_flatMap] at member
  rcases member with (⟨name, _, rfl⟩ | ⟨unit, unitMember, rfl⟩) |
    ⟨unit, unitMember, join, joinMember, rfl⟩
  · exact List.cons_ne_nil _ _
  · exact filled (planOf.tableBlock unitMember).1
  · exact filled ((planOf.tableBlock unitMember).2 join joinMember)

/-- What a plan's creations hold are its statements, in the order of the plan. -/
theorem statements_eq_flatMap :
    plan.statements = plan.creations.flatMap Creation.statements := by
  simp only [Plan.statements, Plan.creations, List.flatMap_append, List.flatMap_map,
    List.flatMap_assoc]
  congr 2
  exact (List.flatMap_pure_eq_map ..).symm

/-- Without expressions as defaults, no statement of a plan is ended by what it holds. -/
theorem neutralStatement
    (planOf : PlanOf model database plan)
    (notMySQL : database ≠ .mySQL)
    (noExpression :
      ∀ entity ∈ model.entities, ∀ field ∈ entity.fields, ∀ sql,
        field.defaultValue ≠ some (.expression sql))
    {statement : Statement}
    (member : statement ∈ plan.statements) :
    NeutralStatement statement := by
  simp only [Plan.statements, List.mem_append, List.mem_map, List.mem_flatMap] at member
  rcases member with (⟨name, _, rfl⟩ | ⟨unit, unitMember, inUnit⟩) |
    ⟨unit, unitMember, join, joinMember, inJoin⟩
  · trivial
  · obtain ⟨entity, entityMember, unitOf⟩ := planOf.entity_of_unit unitMember
    exact unitOf.neutralStatement notMySQL (noExpression entity entityMember) inUnit
  · obtain ⟨owner, _, unitOf⟩ := planOf.entity_of_unit unitMember
    obtain ⟨relationship, _, joinOf⟩ := exists_left_of_forall₂ unitOf.joinTables joinMember
    exact joinOf.neutralStatement notMySQL inJoin

end Plan.PlanOf

/-- A plan's script is its statements on lines of their own. -/
theorem composeScript_eq_statements
    {model : Model}
    {target : Target}
    {plan : Plan}
    (planOf : Plan.PlanOf model target.database plan) :
    composeScript target plan.namespaces (plan.units.map (TableUnit.map (block target))) =
      "\n".intercalate (plan.statements.map (Statement.sql target)) := by
  have filled :
      ∀ creation ∈ plan.creations, creation.statements.map (Statement.sql target) ≠ [] := by
    intro creation member
    rw [ne_eq, List.map_eq_nil_iff]
    exact planOf.statements_ne_nil member
  have texts :
      plan.creations.map (Creation.sql target) =
        plan.creations.map fun creation =>
          "\n".intercalate (creation.statements.map (Statement.sql target)) :=
    List.map_congr_left fun _ _ => Creation.sql_eq_intercalate
  rw [composeScript_eq_creations, Plan.PlanOf.statements_eq_flatMap, List.map_flatMap, texts,
    intercalate_flatMap filled]

/--
A reader of a script that is not for MySQL finds the statements that the
script was composed of, each in its place: one for each namespace, then for
each table, and then for each join table, the statement that creates it, those
for its indexes and those for its comments.
-/
theorem splitStatements_generate
    {model : Model}
    {target : Target}
    {script : Script}
    (notMySQL : target.database ≠ .mySQL)
    (noExpression :
      ∀ entity ∈ model.entities, ∀ field ∈ entity.fields, ∀ sql,
        field.defaultValue ≠ some (.expression sql))
    (generated : Script.generate model target = .ok script) :
    ∃ plan, Plan.ofModel model target.database = .ok plan ∧
      script = Script.ofPlan model.info.name target plan ∧
      splitStatements script.sql = plan.statements.map (Statement.sql target) ∧
      ∀ unit ∈ plan.units,
        TableBlock target.database unit.id unit.body ∧
          ∀ join ∈ unit.joinTables, TableBlock target.database join.id join.body := by
  obtain ⟨plan, made, written⟩ := Script.plan_of_generate generated
  have planOf := Plan.planOf_of_ofModel made
  refine ⟨plan, made, written, ?_, fun _ => planOf.tableBlock⟩
  have composed :
      script.sql = "\n".intercalate (plan.statements.map (Statement.sql target)) := by
    rw [written]
    exact composeScript_eq_statements planOf
  rw [composed]
  apply splitStatements_intercalate
  intro text member
  obtain ⟨statement, statementMember, rfl⟩ := List.mem_map.mp member
  exact isStatement_sql notMySQL (planOf.neutralStatement notMySQL noExpression statementMember)

/-- The script of a league comes apart into the statements of its plan. -/
theorem splitStatements_generate_leagueModel :
    ∃ script, Script.generate leagueModel Target.standard = .ok script ∧
      ∃ plan, Plan.ofModel leagueModel Target.standard.database = .ok plan ∧
        script = Script.ofPlan leagueModel.info.name Target.standard plan ∧
        splitStatements script.sql = plan.statements.map (Statement.sql Target.standard) ∧
        ∀ unit ∈ plan.units,
          TableBlock Target.standard.database unit.id unit.body ∧
            ∀ join ∈ unit.joinTables,
              TableBlock Target.standard.database join.id join.body := by
  obtain ⟨script, generated⟩ := exists_generate_leagueModel
  have noExpression :
      ∀ entity ∈ leagueModel.entities, ∀ field ∈ entity.fields, ∀ sql,
        field.defaultValue ≠ some (.expression sql) := by
    have defaults :
        (leagueModel.entities.flatMap (·.fields)).filterMap (·.defaultValue) =
          [.string "we're; \"one\""] := by
      rfl
    intro entity entityMember field fieldMember sql isExpression
    have listed :
        .expression sql ∈ (leagueModel.entities.flatMap (·.fields)).filterMap (·.defaultValue) :=
      List.mem_filterMap.mpr
        ⟨field, List.mem_flatMap.mpr ⟨entity, entityMember, fieldMember⟩, isExpression⟩
    rw [defaults] at listed
    cases List.mem_singleton.mp listed
  exact ⟨script, generated, splitStatements_generate (by decide) noExpression generated⟩

end SchemaScript
