import SqlGrader.Proofs.Session.Aliases
import SqlGrader.Proofs.Session.ReplacedRows

/-!
# Names of tables

Every word names a table in every statement, the keywords included by which statements are read:
`IF` in front of `EXISTS`, `VALUES`, `FROM`, `WHERE`, `AS` and the others. All statements with one
word are about the one table that is kept under the word in lower case. Main statement:
`word_names_table`.
-/

set_option autoImplicit false

namespace SqlGrader

open SqlGrader.Lexer SqlGrader.Parser

/-! ## Texts -/

def createStatement (table : String) : String :=
  "CREATE TABLE " ++ table ++ " (id INT)"

def insertTuples (table tuples : String) : String :=
  "INSERT INTO " ++ table ++ " VALUES " ++ tuples

def dropStatement (table : String) : String :=
  "DROP TABLE " ++ table

def dropIfExistsStatement (table : String) : String :=
  "DROP TABLE IF EXISTS " ++ table

def idPositive : Predicate :=
  .greaterThan ⟨none, "id"⟩ (.ofInt64 0)

/-! ## Readings -/

variable {table named : String}

theorem parse_createStatement (word : IsWord table)
    (read : nameOf? (wordKind table.toList) = some named) :
    Statement.parse (createStatement table) = .ok (.createTable named) := by
  have front : LexesTo "CREATE TABLE".toList [.keyword .CREATE, .keyword .TABLE] :=
    lexesTo_of_toOption (by decide +kernel)
  have columns : LexesTo "(id INT)".toList [.leftParen, .identifier "id", .identifier "INT",
      .rightParen] := lexesTo_of_toOption (by decide +kernel)
  have whole := lexesTo_word_between front (by decide +kernel) word columns
  have text : (createStatement table).toList =
      "CREATE TABLE".toList ++ ' ' :: (table.toList ++ ' ' :: "(id INT)".toList) := by
    unfold createStatement
    simp
  rw [← text] at whole
  exact parse_of_command whole (.createTable read (by simp))

theorem parse_insertTuples {tuples : String} {kinds : List TokenKind}
    {rows : List (List Literal)} (word : IsWord table)
    (read : nameOf? (wordKind table.toList) = some named) (lexes : LexesTo tuples.toList kinds)
    (spelled : Separated SpellsValues kinds rows) :
    Statement.parse (insertTuples table tuples) = .ok (.insert named rows) := by
  have front : LexesTo "INSERT INTO".toList [.keyword .INSERT, .keyword .INTO] :=
    lexesTo_of_toOption (by decide +kernel)
  have values : LexesTo "VALUES".toList [.keyword .VALUES] :=
    lexesTo_of_toOption (by decide +kernel)
  have whole := lexesTo_word_between front (by decide +kernel) word
    (values.space (by decide +kernel) lexes)
  have text : (insertTuples table tuples).toList = "INSERT INTO".toList ++ ' ' ::
      (table.toList ++ ' ' :: ("VALUES".toList ++ ' ' :: tuples.toList)) := by
    unfold insertTuples
    simp
  rw [← text] at whole
  have command := Command.insert read .absent (separated_values_iff.1 spelled) (.inl rfl)
  exact parse_of_command whole (by simpa using command)

theorem parse_dropStatement (word : IsWord table)
    (read : nameOf? (wordKind table.toList) = some named) :
    Statement.parse (dropStatement table) = .ok (.dropTable named false) := by
  have front : LexesTo "DROP TABLE".toList [.keyword .DROP, .keyword .TABLE] :=
    lexesTo_of_toOption (by decide +kernel)
  have whole := front.space (by decide +kernel) (lexesTo_word word)
  have text : (dropStatement table).toList = "DROP TABLE".toList ++ ' ' :: table.toList := by
    unfold dropStatement
    simp
  rw [← text] at whole
  exact parse_of_command whole (.dropTable read (.inl rfl))

theorem parse_dropIfExistsStatement (word : IsWord table)
    (read : nameOf? (wordKind table.toList) = some named) :
    Statement.parse (dropIfExistsStatement table) = .ok (.dropTable named true) := by
  have front : LexesTo "DROP TABLE IF EXISTS".toList [.keyword .DROP, .keyword .TABLE,
      .keyword .IF, .keyword .EXISTS] := lexesTo_of_toOption (by decide +kernel)
  have whole := front.space (by decide +kernel) (lexesTo_word word)
  have text : (dropIfExistsStatement table).toList =
      "DROP TABLE IF EXISTS".toList ++ ' ' :: table.toList := by
    unfold dropIfExistsStatement
    simp
  rw [← text] at whole
  exact parse_of_command whole (.dropTableIfExists read (.inl rfl))

/-! ## One table -/

/-- Statements with a word in the place of a table are all about one name. -/
structure NamesTable (table tuples : String) (rows : List (List Literal)) (named : String) :
    Prop where
  key : Store.key named = Store.key table
  create : Statement.parse (createStatement table) = .ok (.createTable named)
  insert : Statement.parse (insertTuples table tuples) = .ok (.insert named rows)
  query : Statement.parse (tableQuery table) = .ok (.select (.wholeTable named))
  count : Statement.parse (countQuery table "WHERE id > 0") =
    .ok (.select (.counted named (some idPositive) none))
  delete : Statement.parse (deleteStatement table) = .ok (.delete named)
  drop : Statement.parse (dropStatement table) = .ok (.dropTable named false)
  dropIfExists : Statement.parse (dropIfExistsStatement table) = .ok (.dropTable named true)

theorem spellsTail_idPositive : SpellsTail [.keyword .WHERE, .identifier "id", .greater, .integer 0]
    (some idPositive) none :=
  .restricted (.of (.plain "id") (.greaterThan (.plain (.integer 0)))) (.inl rfl)

theorem exists_namesTable {table tuples : String} {kinds : List TokenKind}
    {rows : List (List Literal)} (word : IsWord table) (lexes : LexesTo tuples.toList kinds)
    (spelled : Separated SpellsValues kinds rows) :
    ∃ named, NamesTable table tuples rows named := by
  obtain ⟨named, read, same⟩ := exists_name table.toList
  rw [String.ofList_toList] at same
  have positive : LexesTo "WHERE id > 0".toList [.keyword .WHERE, .identifier "id", .greater,
      .integer 0] := lexesTo_of_toOption (by decide +kernel)
  exact ⟨named,
    { key := same
      create := parse_createStatement word read
      insert := parse_insertTuples word read lexes spelled
      query := parse_tableQuery_of_name word read
      count := parse_countQuery word read positive spellsTail_idPositive
      delete := parse_deleteStatement_of_name word read
      drop := parse_dropStatement word read
      dropIfExists := parse_dropIfExistsStatement word read }⟩

namespace Session

/-- What a change of the rows of a table reports. -/
def reportOn (s : Session) (table : String) : Except ExecutionError Unit :=
  if s.leniency = .lenient ∨ s.store.contains table = true then .ok ()
  else .error (.unknownTable (Store.key table))

/-- A text that is run as a change of one table and of nothing else. -/
structure RunsOn (s : Session) (sql table : String) (report : Except ExecutionError Unit)
    (change : Option (List Row) → Option (List Row)) : Prop where
  report : (s.run sql).1 = report
  changed : (s.run sql).2.store.rows? table = change (s.store.rows? table)
  others : ∀ other, Store.key other ≠ Store.key table →
    (s.run sql).2.store.rows? other = s.store.rows? other
  rest : (s.run sql).2 = { s with store := (s.run sql).2.store }

/-- A statement changes the table that it names as its effect says, and nothing else. -/
theorem runsOn_of_parse {s : Session} {sql table named : String} {statement : Statement}
    (parsed : Statement.parse sql = .ok statement) (about : statement.table? = some named)
    (same : Store.key named = Store.key table) :
    s.RunsOn sql table (s.run sql).1 statement.effect := by
  have store : (s.run sql).2.store = s.store.afterStatement statement := by
    rw [run_snd, Store.after, parsed]
  have names : ∀ other, statement.names other = decide (Store.key other = Store.key table) := by
    intro other
    rw [Statement.names, about, Option.any_some, same]
  refine ⟨rfl, ?_, fun other different => ?_, ?_⟩
  · rw [store, Store.rows?_afterStatement, names, if_pos (by simp)]
  · rw [store, Store.rows?_afterStatement, names, if_neg (by simpa using different)]
  · rw [run_snd]

theorem runsOn_of_ok {s : Session} {sql table named : String} {statement : Statement}
    (parsed : Statement.parse sql = .ok statement) (about : statement.table? = some named)
    (same : Store.key named = Store.key table)
    (carried : (s.store.execute s.leniency statement).1 = .ok ()) :
    s.RunsOn sql table (.ok ()) statement.effect := by
  have report : (s.run sql).1 = .ok () := by
    rw [run_fst, attempt, parsed]
    dsimp only
    rw [carried]
    cases s.leniency <;> rfl
  exact report ▸ runsOn_of_parse parsed about same

theorem runsOn_of_changeRows {s : Session} {sql table named : String} {statement : Statement}
    {change : List Row → List Row} (parsed : Statement.parse sql = .ok statement)
    (about : statement.table? = some named) (same : Store.key named = Store.key table)
    (carried : s.store.execute s.leniency statement =
      s.store.changeRows s.leniency named change) :
    s.RunsOn sql table (s.reportOn table) statement.effect := by
  have step : s.attempt sql = s.store.changeRows s.leniency named change := by
    rw [attempt, parsed]
    exact carried
  have report : (s.run sql).1 = s.reportOn table := by
    rw [run_fst_of_changeRows step, reportOn, same, Store.contains, Store.contains, Store.rows?,
      Store.rows?, same]
  exact report ▸ runsOn_of_parse parsed about same

/-- The number of rows of a table that meet the condition, as the filter for it tells. -/
theorem exec_countQuery_idPositive (s : Session) {sql table named : String}
    (parsed : Statement.parse sql = .ok (.select (.counted named (some idPositive) none)))
    (same : Store.key named = Store.key table) :
    ∃ filter,
      RowFilter.ofPredicate s.regex s.scope s.catalog (Store.key table) idPositive = .ok filter ∧
      s.exec sql = .ok (some ⟨[Database.countLabel],
        [[Database.countCell ((s.store.rows table).filter filter.passes).length]]⟩) := by
  obtain ⟨filter, made⟩ : ∃ filter, RowFilter.ofPredicate s.regex s.scope s.catalog
      (Store.key table) idPositive = .ok filter := ⟨_, rfl⟩
  refine ⟨filter, made, ?_⟩
  have planned : Plan.ofSelect s.leniency (.counted named (some idPositive) none) =
      .ok (.count (.filter (.scan (Store.key table)) idPositive)) := by
    rw [← same]
    cases s.leniency <;> rfl
  have answered : s.answer (.counted named (some idPositive) none) = .ok ⟨[Database.countLabel],
      [[Database.countCell ((s.store.rows table).filter filter.passes).length]]⟩ := by
    rw [answer, planned]
    simp only [Database.evaluate, Database.selectedRows, database, Plan.table?, Option.getD_some,
      made, Except.map, Store.rows_key]
  rw [exec, parsed]
  simp only [answered]
  rfl

/-- With any word as the name of a table, all statements are read with it as the name, whatever
keyword it is. They create, fill, empty and drop the table that is kept under the word in lower
case, or answer from its rows, and leave every other table as it is. Only a strict session without
the table reports an error, and only where rows are to be changed. -/
theorem word_names_table (s : Session) {table tuples : String} {kinds : List TokenKind}
    {rows : List (List Literal)} (word : IsWord table) (lexes : LexesTo tuples.toList kinds)
    (spelled : Separated SpellsValues kinds rows) :
    (∃ named, NamesTable table tuples rows named) ∧
    s.RunsOn (createStatement table) table (.ok ()) (fun _ => some []) ∧
    s.RunsOn (insertTuples table tuples) table (s.reportOn table)
      (Option.map (· ++ rows.map (·.map Literal.toCell))) ∧
    s.RunsOn (deleteStatement table) table (s.reportOn table) (Option.map fun _ => []) ∧
    s.RunsOn (dropStatement table) table (.ok ()) (fun _ => none) ∧
    s.RunsOn (dropIfExistsStatement table) table (.ok ()) (fun _ => none) ∧
    s.exec (tableQuery table) = .ok (some ⟨s.catalog.columns table, s.store.rows table⟩) ∧
    ∃ filter,
      RowFilter.ofPredicate s.regex s.scope s.catalog (Store.key table) idPositive = .ok filter ∧
      s.exec (countQuery table "WHERE id > 0") = .ok (some ⟨[Database.countLabel],
        [[Database.countCell ((s.store.rows table).filter filter.passes).length]]⟩) := by
  obtain ⟨named, names⟩ := exists_namesTable word lexes spelled
  refine ⟨⟨named, names⟩, ?_, ?_, ?_, ?_, ?_, s.exec_tableQuery word,
    s.exec_countQuery_idPositive names.count names.key⟩
  · exact runsOn_of_ok names.create rfl names.key rfl
  · exact runsOn_of_changeRows names.insert rfl names.key rfl
  · exact runsOn_of_changeRows names.delete rfl names.key rfl
  · exact runsOn_of_ok names.drop rfl names.key rfl
  · exact runsOn_of_ok names.dropIfExists rfl names.key rfl

/-- `IF` in the place of a table, with two rows put into it. -/
theorem word_names_table_if :
    let s : Session :=
      ⟨⟨[("if", []), ("exists", [[.integer 1]])]⟩, .empty, .strict, .row, .builtin⟩
    s.RunsOn "INSERT INTO If VALUES (1), (-2)" "If" (s.reportOn "If")
        (Option.map (· ++ [[.integer 1], [.integer (-2)]])) ∧
      s.RunsOn "DROP TABLE IF EXISTS If" "If" (.ok ()) (fun _ => none) := by
  intro s
  have lexes : LexesTo "(1), (-2)".toList [.leftParen, .integer 1, .rightParen, .comma, .leftParen,
      .minus, .integer 2, .rightParen] := lexesTo_of_toOption (by decide +kernel)
  have first : SpellsValues [.leftParen, .integer 1, .rightParen] [.integer 1] :=
    .literals (.last (.integer 1))
  have second : SpellsValues [.leftParen, .minus, .integer 2, .rightParen] [.integer (-2)] :=
    .literals (.last (.minusInteger 2))
  obtain ⟨-, -, inserts, -, -, drops, -⟩ :=
    s.word_names_table (show IsWord "If" by decide) lexes (.cons first (.last second))
  exact ⟨inserts, drops⟩

end Session

end SqlGrader
