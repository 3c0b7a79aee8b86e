import Mathlib.Data.List.DropRight
import SqlGrader.Proofs.Session.Leniency
import SqlGrader.Proofs.Statement.TableQuery
import SqlGrader.Proofs.Unicode.LowerCaseTwice

/-!
# Tables and their history

A table is what the statements about it have made of it. Each statement has an effect on the rows
of the table that it names and on no other (`rows?_afterStatement`), so that the rows after a run
are those that the history of the table makes, one effect after the other (`rows?_runs`). From an
empty store that comes to two facts about the history alone: whether its last creation or removal
is a creation, and what was inserted since the table was last emptied. Main statement:
`runs_contents`.
-/

set_option autoImplicit false

namespace SqlGrader

namespace Statement

/-- The table that a statement is about; a query is about none. -/
def table? : Statement → Option String
  | createTable name | dropTable name _ | delete name | insert name _ => some name
  | select _ => none

/-- Whether a statement is about a table. Names are the same when their lower-case forms are. -/
def names (table : String) (statement : Statement) : Bool :=
  statement.table?.any fun name => Store.key table = Store.key name

/-- Whether a statement decides that its table is there, or that it is not. -/
def settles : Statement → Bool
  | createTable _ | dropTable _ _ => true
  | _ => false

def empties : Statement → Bool
  | createTable _ | dropTable _ _ | delete _ => true
  | _ => false

/-- The rows that a statement adds to its table. -/
def addedRows : Statement → List Row
  | insert _ rows => rows.map (·.map Literal.toCell)
  | _ => []

/-- What a statement makes of the rows of its table, if there is the table. -/
def effect : Statement → Option (List Row) → Option (List Row)
  | createTable _, _ => some []
  | dropTable _ _, _ => none
  | delete _, rows? => rows?.map fun _ => []
  | insert _ values, rows? => rows?.map (· ++ values.map (·.map Literal.toCell))
  | select _, rows? => rows?

/-- The statements about a table among texts, in their order. What is no statement is left out. -/
def history (table : String) (sqls : List String) : List Statement :=
  (sqls.filterMap fun sql => (parse sql).toOption).filter (·.names table)

theorem history_cons (table sql : String) (rest : List String) :
    history table (sql :: rest) =
      match parse sql with
      | .ok statement =>
        if statement.names table then statement :: history table rest else history table rest
      | .error _ => history table rest := by
  unfold history
  cases parsed : parse sql with
  | error cause => simp [parsed, Except.toOption]
  | ok statement => simp [parsed, Except.toOption, List.filter_cons]

theorem history_append (table : String) (earlier later : List String) :
    history table (earlier ++ later) = history table earlier ++ history table later := by
  simp [history]

/-- A text that is no statement about a table has no part in its history. -/
theorem history_cons_of_elsewhere {table sql : String} (later : List String)
    (elsewhere : ∀ statement, parse sql = .ok statement → statement.names table = false) :
    history table (sql :: later) = history table later := by
  rw [history_cons]
  cases parsed : parse sql with
  | error cause => rfl
  | ok statement => simp [elsewhere statement parsed]

/-- The rows that are added behind the last statement that leaves none. -/
def addedSinceEmptied (statements : List Statement) : List Row :=
  (statements.rtakeWhile fun statement => !statement.empties).flatMap addedRows

theorem addedSinceEmptied_concat (statements : List Statement) (last : Statement) :
    addedSinceEmptied (statements ++ [last]) =
      if last.empties then [] else addedSinceEmptied statements ++ last.addedRows := by
  unfold addedSinceEmptied
  rw [List.rtakeWhile_concat]
  cases last.empties <;> simp

theorem effect_none_of_settles {statement : Statement} (h : statement.settles = false) :
    statement.effect none = none := by
  cases statement with
  | createTable name => cases h
  | _ => rfl

theorem effect_some_of_settles {statement : Statement} (h : statement.settles = false)
    (rows : List Row) :
    statement.effect (some rows) =
      some (if statement.empties then [] else rows ++ statement.addedRows) := by
  cases statement with
  | createTable name => cases h
  | dropTable name ifExists => cases h
  | delete name => rfl
  | insert name values => rfl
  | select query => simp [effect, empties, addedRows]

def effects (statements : List Statement) (rows? : Option (List Row)) : Option (List Row) :=
  statements.foldl (fun rows? statement => statement.effect rows?) rows?

theorem effects_concat (statements : List Statement) (last : Statement)
    (rows? : Option (List Row)) :
    effects (statements ++ [last]) rows? = last.effect (effects statements rows?) := by
  simp [effects]

/-- Whether the last statement that settles the matter creates the table. -/
def EndsCreated (statements : List Statement) : Prop :=
  ∃ name, (statements.filter settles).getLast? = some (.createTable name)

theorem endsCreated_concat_of_settles {statements : List Statement} {last : Statement}
    (h : last.settles = false) : EndsCreated (statements ++ [last]) ↔ EndsCreated statements := by
  simp [EndsCreated, List.filter_append, h]

/-- From no table, statements make one exactly when the last of them that settles the matter
creates it, and its rows are then those added since it was last emptied. -/
theorem effects_cases (statements : List Statement) :
    (EndsCreated statements ∧ effects statements none = some (addedSinceEmptied statements)) ∨
      (¬ EndsCreated statements ∧ effects statements none = none) := by
  induction statements using List.reverseRecOn with
  | nil =>
    refine .inr ⟨?_, rfl⟩
    intro created
    obtain ⟨name, last⟩ := created
    cases last
  | append_singleton earlier last ih =>
    rw [effects_concat, addedSinceEmptied_concat]
    cases settled : last.settles with
    | false =>
      rw [endsCreated_concat_of_settles settled]
      rcases ih with ⟨created, rows⟩ | ⟨gone, rows⟩
      · exact .inl ⟨created, by rw [rows, effect_some_of_settles settled]⟩
      · exact .inr ⟨gone, by rw [rows, effect_none_of_settles settled]⟩
    | true =>
      have settling : ((earlier ++ [last]).filter settles).getLast? = some last := by
        simp [List.filter_append, settled]
      unfold EndsCreated
      rw [settling]
      cases last with
      | createTable name => exact .inl ⟨⟨name, rfl⟩, rfl⟩
      | dropTable name ifExists => exact .inr ⟨by simp, rfl⟩
      | _ => cases settled

end Statement

namespace Store

theorem key_key (name : String) : key (key name) = key name :=
  Unicode.toLower_toLower_text name

theorem rows_key (store : Store) (name : String) : store.rows (key name) = store.rows name := by
  rw [rows, rows, rows?, rows?, key_key]

/-- A change of rows reaches the table of its name only. -/
theorem rows?_changeRows (store : Store) (leniency : Leniency) (changed table : String)
    (change : List Row → List Row) :
    (store.changeRows leniency changed change).2.rows? table =
      if key table = key changed then (store.rows? table).map change else store.rows? table := by
  rw [changeRows_snd]
  split
  · exact rows?_modify store changed table change
  · rename_i missing
    split
    · rename_i same
      have none? : store.rows? table = none := by
        unfold rows?
        rw [same]
        exact Option.not_isSome_iff_eq_none.1 missing
      rw [none?, Option.map_none]
    · rfl

/-- A statement has its effect on the table that it names, and none on other tables. -/
theorem rows?_afterStatement (store : Store) (statement : Statement) (table : String) :
    (store.afterStatement statement).rows? table =
      if statement.names table then statement.effect (store.rows? table)
      else store.rows? table := by
  cases statement with
  | createTable name =>
    have created : store.afterStatement (.createTable name) = store.create name := rfl
    rw [created, rows?_create]
    simp [Statement.names, Statement.table?, Statement.effect]
  | dropTable name ifExists =>
    have dropped : store.afterStatement (.dropTable name ifExists) = store.drop name := rfl
    rw [dropped, rows?_drop]
    simp [Statement.names, Statement.table?, Statement.effect]
  | delete name =>
    have emptied := store.rows?_changeRows .strict name table fun _ => []
    simpa [afterStatement, execute, Statement.names, Statement.table?, Statement.effect]
      using emptied
  | insert name values =>
    have added := store.rows?_changeRows .strict name table (· ++ values.map (·.map Literal.toCell))
    simpa [afterStatement, execute, Statement.names, Statement.table?, Statement.effect]
      using added
  | select query => rfl

/-- Texts have on a table the effects of its history. -/
theorem rows?_foldl_after (store : Store) (sqls : List String) (table : String) :
    (sqls.foldl after store).rows? table =
      Statement.effects (Statement.history table sqls) (store.rows? table) := by
  induction sqls generalizing store with
  | nil => rfl
  | cons sql rest ih =>
    rw [List.foldl_cons, ih, Statement.history_cons, after]
    cases Statement.parse sql with
    | error cause => rfl
    | ok statement =>
      simp only [rows?_afterStatement]
      split <;> rfl

end Store

theorem Catalog.columns_key (catalog : Catalog) (table : String) :
    catalog.columns (Store.key table) = catalog.columns table := by
  rw [columns, columns, Store.key, Unicode.toLower_toLower_text]

namespace Session

/-- The session after texts that are run one after the other, errors or not. -/
def runs (s : Session) (sqls : List String) : Session :=
  sqls.foldl (fun s sql => (s.run sql).2) s

theorem runs_eq (s : Session) (sqls : List String) :
    s.runs sqls = { s with store := sqls.foldl Store.after s.store } := by
  unfold runs
  induction sqls generalizing s with
  | nil => rfl
  | cons sql rest ih => rw [List.foldl_cons, ih, run_snd, List.foldl_cons]

theorem rows?_runs (s : Session) (sqls : List String) (table : String) :
    (s.runs sqls).store.rows? table =
      Statement.effects (Statement.history table sqls) (s.store.rows? table) := by
  rw [runs_eq, Store.rows?_foldl_after]

/-- The query for a whole table has the rows of the table. -/
theorem exec_tableQuery (s : Session) {table : String} (word : IsWord table) :
    s.exec (tableQuery table) = .ok (some ⟨s.catalog.columns table, s.store.rows table⟩) := by
  obtain ⟨named, parsed, same⟩ := parse_tableQuery word
  have planned : Plan.ofSelect s.leniency (.wholeTable named) =
      .ok (.scan (Store.key table)) := by
    rw [← same]
    cases s.leniency <;> rfl
  have answered : s.answer (.wholeTable named) =
      .ok ⟨s.catalog.columns table, s.store.rows table⟩ := by
    rw [answer, planned]
    simp only [Database.evaluate, Database.selectedRows, database, Plan.table?, Option.getD_some,
      Except.map, Catalog.columns_key, Store.rows_key]
  rw [exec, parsed]
  simp only [answered]
  rfl

/-- After any run of a new session a table is there exactly when the last statement that creates
or drops it creates it. Its rows, and so the answer to the query for all of it, are then those
inserted behind the last statement that creates, empties or drops it, in their order. A text
that is no statement about the table makes no difference to it. -/
theorem runs_contents (catalog : Catalog) (leniency : Leniency) (scope : MatchScope)
    (regex : Regex.Library) (sqls : List String) (table : String) :
    let s := (start catalog leniency scope regex).runs sqls
    let history := Statement.history table sqls
    (s.store.contains table = true ↔ Statement.EndsCreated history) ∧
    (s.store.contains table = true →
      s.store.rows? table = some (Statement.addedSinceEmptied history) ∧
      (IsWord table → s.exec (tableQuery table) =
        .ok (some ⟨catalog.columns table, Statement.addedSinceEmptied history⟩))) ∧
    (∀ earlier sql later, sqls = earlier ++ sql :: later →
      (∀ statement, Statement.parse sql = .ok statement → statement.names table = false) →
      ((start catalog leniency scope regex).runs (earlier ++ later)).store.rows? table =
        s.store.rows? table) := by
  intro s history
  have whole : s.store.rows? table = Statement.effects history none :=
    rows?_runs (start catalog leniency scope regex) sqls table
  have labels : s.catalog = catalog := by
    simp only [s, runs_eq]
    rfl
  refine ⟨?_, ?_, ?_⟩
  · rw [Store.contains, whole]
    rcases Statement.effects_cases history with ⟨created, rows⟩ | ⟨gone, rows⟩
    · rw [rows]
      exact iff_of_true rfl created
    · rw [rows]
      exact iff_of_false (by simp) gone
  · intro there
    have rows : s.store.rows? table = some (Statement.addedSinceEmptied history) := by
      rcases Statement.effects_cases history with ⟨-, rows⟩ | ⟨-, rows⟩
      · rw [whole, rows]
      · rw [Store.contains, whole, rows] at there
        cases there
    refine ⟨rows, fun word => ?_⟩
    rw [s.exec_tableQuery word, labels, Store.rows, rows]
    rfl
  · rintro earlier sql later rfl elsewhere
    rw [whole, rows?_runs]
    simp only [history, Statement.history_append,
      Statement.history_cons_of_elsewhere later elsewhere]
    rfl

/-- Two tables, one of them created again; an insertion before its table is there, a text that is
no statement, and a name in other letters. -/
theorem runs_contents_users :
    let sqls := ["INSERT INTO users VALUES (1)", "CREATE TABLE users", "CREATE TABLE posts",
      "INSERT INTO Users VALUES (2), (3)", "INSERT INTO posts VALUES (4)", "TRUNCATE users",
      "INSERT INTO USERS VALUES ('x')"]
    let s := (start .classroom .lenient .row .builtin).runs sqls
    s.store.contains "users" = true ∧
    s.store.rows? "users" = some [[.integer 2], [.integer 3], [.text "x"]] ∧
    (s.exec (tableQuery "users")).toOption = some (some
      ⟨["id", "name", "email", "password"], [[.integer 2], [.integer 3], [.text "x"]]⟩) ∧
    ((start .classroom .lenient .row .builtin).runs
      (sqls.take 5 ++ sqls.drop 6)).store.rows? "users" = s.store.rows? "users" := by
  intro sqls s
  have history : Statement.history "users" sqls =
      [.insert "users" [[.integer 1]], .createTable "users",
        .insert "Users" [[.integer 2], [.integer 3]], .insert "USERS" [[.quoted "x"]]] := by
    decide +kernel
  have added : Statement.addedSinceEmptied (Statement.history "users" sqls) =
      [[.integer 2], [.integer 3], [.text "x"]] := by
    rw [history]
    rfl
  have labels : Catalog.classroom.columns "users" = ["id", "name", "email", "password"] := by
    decide +kernel
  have word : IsWord "users" := by decide
  obtain ⟨there, contents, others⟩ :=
    runs_contents .classroom .lenient .row .builtin sqls "users"
  have created : s.store.contains "users" = true := by
    rw [there, history]
    exact ⟨"users", rfl⟩
  obtain ⟨rows, answer⟩ := contents created
  rw [added] at rows answer
  refine ⟨created, rows, ?_, others (sqls.take 5) "TRUNCATE users" (sqls.drop 6) rfl ?_⟩
  · rw [answer word, labels]
    rfl
  · intro statement parsed
    have refused : (Statement.parse "TRUNCATE users").toOption = none := by decide +kernel
    rw [parsed] at refused
    cases refused

end Session

end SqlGrader
