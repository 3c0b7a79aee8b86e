import SqlGrader.Proofs.Grader.Isolation

/-!
# Replaced rows

The statements that put rows in place of those of a table: the first one empties it, and each of
the others inserts a row. Main statements: what they leave in a store, whatever it holds
(`exists_replaced`), and that they succeed, unless a strict session has no such table
(`runEach_replaceRows`, `runEach_replaceRows_of_missing`).
-/

set_option autoImplicit false

namespace SqlGrader

open SqlGrader.Lexer SqlGrader.Parser

theorem parse_deleteStatement_of_name {table named : String} (word : IsWord table)
    (read : nameOf? (wordKind table.toList) = some named) :
    Statement.parse (deleteStatement table) = .ok (.delete named) := by
  have front : LexesTo "DELETE FROM".toList [.keyword .DELETE, .keyword .FROM] :=
    lexesTo_of_toOption (by decide +kernel)
  have whole := front.space (by decide +kernel) (lexesTo_word word)
  have text : (deleteStatement table).toList = "DELETE FROM".toList ++ ' ' :: table.toList := by
    unfold deleteStatement
    simp
  rw [← text] at whole
  exact parse_of_command whole (.delete read (.inl rfl))

/-- The statement that empties a table is read as one. -/
theorem parse_deleteStatement {table : String} (word : IsWord table) :
    ∃ named, Statement.parse (deleteStatement table) = .ok (.delete named) ∧
      Store.key named = Store.key table := by
  obtain ⟨named, read, same⟩ := exists_name table.toList
  rw [String.ofList_toList] at same
  exact ⟨named, parse_deleteStatement_of_name word read, same⟩

/-- Whether a cell is no infinite number and not not-a-number. -/
def Cell.isFinite : Cell → Bool
  | float x => x.isFinite
  | null | integer _ | text _ => true

/-- Rows without infinite numbers and not-a-number. -/
abbrev Row.AllFinite (rows : List Row) : Prop :=
  ∀ row ∈ rows, ∀ cell ∈ row, cell.isFinite = true

theorem Row.AllFinite.head {row : Row} {rest : List Row} (finite : AllFinite (row :: rest)) :
    ∀ x, Cell.float x ∈ row → x.isFinite = true :=
  fun x member => finite row List.mem_cons_self (.float x) member

theorem Row.AllFinite.tail {row : Row} {rest : List Row} (finite : AllFinite (row :: rest)) :
    AllFinite rest :=
  fun later member => finite later (List.mem_cons_of_mem row member)

/-- Rows that are stored for others, cell by cell and in the same order. -/
abbrev Row.AllStoredAs (rows stored : List Row) : Prop :=
  List.Forall₂ (List.Forall₂ Cell.StoredAs) rows stored

/-! ## What is left in a store -/

namespace Statement

theorem effects_cons (first : Statement) (rest : List Statement) (rows? : Option (List Row)) :
    effects (first :: rest) rows? = effects rest (first.effect rows?) := rfl

theorem names_insert (other named : String) (values : List (List Literal)) :
    (insert named values).names other = decide (Store.key other = Store.key named) := rfl

/-- Rows that are inserted one by one stand behind those of the table, in their order. -/
theorem exists_effects_inserted {table : String} {rows : List Row} (word : IsWord table)
    (finite : Row.AllFinite rows) :
    ∃ stored, Row.AllStoredAs rows stored ∧ ∀ other rows?,
      effects (history other (rows.map (insertStatement table))) rows? =
        if Store.key other = Store.key table then rows?.map (· ++ stored) else rows? := by
  induction rows with
  | nil => exact ⟨[], .nil, fun other rows? => by simp [history, effects]⟩
  | cons row rest ih =>
    obtain ⟨named, values, parsed, same, cells⟩ :=
      parse_insertStatement word finite.head
    obtain ⟨stored, kept, effect⟩ := ih finite.tail
    refine ⟨values.map Literal.toCell :: stored, .cons cells kept, fun other rows? => ?_⟩
    rw [List.map_cons, history_cons, parsed]
    dsimp only
    rw [names_insert, same]
    by_cases about : Store.key other = Store.key table
    · simp [about, effects_cons, effect, Statement.effect, Function.comp_def]
    · simp [about, effect]

end Statement

namespace Store

/-- Whatever a store holds, the rows in place of those of a table are the same afterwards, and the
other tables are untouched. -/
theorem exists_replaced {table : String} {rows : List Row} (word : IsWord table)
    (finite : Row.AllFinite rows) :
    ∃ stored, Row.AllStoredAs rows stored ∧ ∀ (store : Store) (other : String),
      ((replaceRows table rows).foldl after store).rows? other =
        if key other = key table then (store.rows? other).map fun _ => stored
        else store.rows? other := by
  obtain ⟨named, parsed, same⟩ := parse_deleteStatement word
  obtain ⟨stored, kept, effect⟩ := Statement.exists_effects_inserted word finite
  refine ⟨stored, kept, fun store other => ?_⟩
  have emptied : (store.after (deleteStatement table)).rows? other =
      if key other = key table then (store.rows? other).map fun _ => [] else store.rows? other := by
    rw [after, parsed]
    dsimp only
    rw [rows?_afterStatement, ← same]
    simp [Statement.names, Statement.table?, Statement.effect]
  rw [replaceRows, List.foldl_cons, rows?_foldl_after, effect, emptied]
  by_cases about : key other = key table
  · simp [about, Function.comp_def]
  · simp [about]

theorem contains_of_replaced {before after : Store} {table : String} {stored : List Row}
    (replaced : ∀ other, after.rows? other =
      if key other = key table then (before.rows? other).map fun _ => stored
      else before.rows? other) (name : String) :
    after.contains name = before.contains name := by
  rw [contains, contains, replaced]
  split
  · exact Option.isSome_map
  · rfl

/-- A statement that neither creates nor drops a table leaves the same tables there. -/
theorem contains_after (store : Store) {sql : String} (keeps : KeepsTables sql) (name : String) :
    (store.after sql).contains name = store.contains name := by
  unfold after
  split
  · rename_i statement parsed
    have unsettled := keeps statement parsed
    rw [contains, contains, rows?_afterStatement]
    split
    · cases store.rows? name with
      | none => rw [Statement.effect_none_of_settles unsettled]
      | some rows => rw [Statement.effect_some_of_settles unsettled]; rfl
    · rfl
  · rfl

end Store

/-! ## Success and failure -/

namespace Session

/-- A change of the rows of a table succeeds, unless a strict session has no such table. -/
theorem run_fst_of_changeRows {s : Session} {sql table : String} {change : List Row → List Row}
    (step : s.attempt sql = s.store.changeRows s.leniency table change) :
    (s.run sql).1 =
      if s.leniency = .lenient ∨ s.store.contains table = true then .ok ()
      else .error (.unknownTable (Store.key table)) := by
  rw [run_fst, step]
  by_cases there : s.store.contains table = true
  · cases s.leniency <;> simp [Store.changeRows, there]
  · cases s.leniency <;> simp [Store.changeRows, Store.missingTable, there]

theorem run_deleteStatement_fst (s : Session) {table : String} (word : IsWord table) :
    (s.run (deleteStatement table)).1 =
      if s.leniency = .lenient ∨ s.store.contains table = true then .ok ()
      else .error (.unknownTable (Store.key table)) := by
  obtain ⟨named, parsed, same⟩ := parse_deleteStatement word
  have step : s.attempt (deleteStatement table) =
      s.store.changeRows s.leniency named fun _ => [] := by
    rw [attempt, parsed]
    rfl
  rw [run_fst_of_changeRows step, same, Store.contains, Store.rows?, same]
  rfl

theorem runEach_inserted {s : Session} {table : String} {rows : List Row} (word : IsWord table)
    (finite : Row.AllFinite rows)
    (there : s.leniency = .lenient ∨ s.store.contains table = true) :
    (s.runEach (rows.map (insertStatement table))).1 = .ok () := by
  induction rows generalizing s with
  | nil => rfl
  | cons row rest ih =>
    obtain ⟨named, values, parsed, same, -⟩ :=
      parse_insertStatement word finite.head
    have step : s.attempt (insertStatement table row) =
        s.store.changeRows s.leniency named (· ++ [values.map Literal.toCell]) := by
      rw [attempt, parsed]
      rfl
    have namedThere : s.leniency = .lenient ∨ s.store.contains named = true := by
      rw [Store.contains, Store.rows?, same]
      exact there
    rw [List.map_cons, runEach_cons, run_fst_of_changeRows step, if_pos namedThere]
    refine ih finite.tail ?_
    rw [run_snd]
    dsimp only
    rw [Store.contains_after _ (keepsTables_insertStatement table row)]
    exact there

/-- Rows are put in place without an error where there is the table, or nobody minds. -/
theorem runEach_replaceRows {s : Session} {table : String} {rows : List Row} (word : IsWord table)
    (finite : Row.AllFinite rows)
    (there : s.leniency = .lenient ∨ s.store.contains table = true) :
    s.runEach (replaceRows table rows) =
      (.ok (), { s with store := (replaceRows table rows).foldl Store.after s.store }) := by
  have succeeds : (s.runEach (replaceRows table rows)).1 = .ok () := by
    rw [replaceRows, runEach_cons, run_deleteStatement_fst s word, if_pos there]
    refine runEach_inserted word finite ?_
    rw [run_snd]
    dsimp only
    rw [Store.contains_after _ (keepsTables_deleteStatement table)]
    exact there
  exact Prod.ext succeeds (runEach_snd_of_ok succeeds)

/-- A strict session without the table stops at the first statement. -/
theorem runEach_replaceRows_of_missing {s : Session} {table : String} (rows : List Row)
    (word : IsWord table) (strict : s.leniency = .strict)
    (missing : s.store.contains table = false) :
    s.runEach (replaceRows table rows) = (.error (.unknownTable (Store.key table)), s) := by
  have failed : (s.run (deleteStatement table)).1 = .error (.unknownTable (Store.key table)) := by
    rw [run_deleteStatement_fst s word, if_neg (by simp [strict, missing])]
  rw [replaceRows, runEach_cons, failed, run_snd, after_of_error failed]

end Session

end SqlGrader
