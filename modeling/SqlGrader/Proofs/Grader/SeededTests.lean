import SqlGrader.Proofs.Grader.SeededTables
import SqlGrader.Proofs.Plan.TablesRead

/-!
# Seeded tests

A test whose query reads only tables that its seed puts rows in has the same result whatever the
tables held before. Two graders with the same tables are run side by side. Every statement has the
same result in both and keeps the tables that agree; the statement that empties a target makes
that table agree too, even where it is an error. Main statement: `gradeQuery_seeded`.
-/

set_option autoImplicit false

namespace SqlGrader

/-- Whether a table is there after a statement does not depend on the rows in it. -/
theorem Statement.isSome_effect_congr (statement : Statement) {rows? otherRows? : Option (List Row)}
    (same : otherRows?.isSome = rows?.isSome) :
    (statement.effect otherRows?).isSome = (statement.effect rows?).isSome := by
  cases statement <;> simp [effect, same]

namespace Store

/-- Stores with the same tables, some of which hold the same rows. -/
structure AgreeOn (agreed : String → Prop) (store other : Store) : Prop where
  contains : ∀ name, other.contains name = store.contains name
  rows? : ∀ name, agreed name → other.rows? name = store.rows? name

variable {agreed : String → Prop} {store other : Store}

/-- A statement has the same effect in stores that agree. -/
theorem AgreeOn.after (agree : AgreeOn agreed store other) (sql : String) :
    AgreeOn agreed (store.after sql) (other.after sql) := by
  unfold Store.after
  split
  · rename_i statement parsed
    refine ⟨fun name => ?_, fun name member => ?_⟩
    · rw [Store.contains, Store.contains, rows?_afterStatement, rows?_afterStatement]
      split
      · exact statement.isSome_effect_congr (agree.contains name)
      · exact agree.contains name
    · rw [rows?_afterStatement, rows?_afterStatement, agree.rows? name member]
  · exact agree

/-- A table that has been emptied agrees from then on. -/
theorem AgreeOn.after_deleteStatement (agree : AgreeOn agreed store other) {table : String}
    (word : IsWord table) :
    AgreeOn (fun name => agreed name ∨ key name = key table)
      (store.after (deleteStatement table)) (other.after (deleteStatement table)) := by
  have kept := agree.after (deleteStatement table)
  refine ⟨kept.contains, fun name member => ?_⟩
  rcases member with member | about
  · exact kept.rows? name member
  · obtain ⟨named, parsed, same⟩ := parse_deleteStatement word
    have names : (Statement.delete named).names name = true := by
      simpa [Statement.names, Statement.table?, same] using about
    have there := agree.contains name
    unfold Store.after
    rw [parsed]
    dsimp only
    rw [rows?_afterStatement, rows?_afterStatement, names]
    unfold Store.contains at there
    cases held : store.rows? name <;> cases otherHeld : other.rows? name <;>
      simp_all [Statement.effect]

end Store

namespace Session

variable {agreed : String → Prop} {s : Session} {other : Store}

/-- Whether a statement is an error depends on what tables there are, not on their rows. -/
theorem run_fst_congr (same : ∀ name, other.contains name = s.store.contains name)
    (sql : String) : ((s.withStore other).run sql).1 = (s.run sql).1 := by
  have changed : ∀ table change, (other.changeRows s.leniency table change).1 =
      (s.store.changeRows s.leniency table change).1 := by
    intro table change
    unfold Store.changeRows
    rw [same]
    split <;> rfl
  have executed : ((s.withStore other).attempt sql).1 = (s.attempt sql).1 := by
    unfold attempt
    split
    · rfl
    · rename_i statement parsed
      cases statement with
      | createTable name => rfl
      | dropTable name ifExists => rfl
      | delete table => exact changed table _
      | insert table rows => exact changed table _
      | select query =>
        change (other.execute s.leniency (.select query)).1 = _
        unfold Store.execute
        cases s.leniency <;> rfl
  rw [run_fst, run_fst, executed]
  rfl

/-- Statements have the same result over stores that agree, and leave stores that agree. -/
theorem runEach_agreeOn (agree : s.store.AgreeOn agreed other) (statements : List String) :
    ∃ after, (s.withStore other).runEach statements =
        ((s.runEach statements).1, (s.runEach statements).2.withStore after) ∧
      (s.runEach statements).2.store.AgreeOn agreed after := by
  induction statements generalizing s other with
  | nil => exact ⟨other, rfl, agree⟩
  | cons sql rest ih =>
    have first := agree.after sql
    rw [runEach_cons, runEach_cons, run_fst_congr agree.contains, run_snd, run_snd]
    cases (s.run sql).1 with
    | ok => exact ih (s := { s with store := s.store.after sql }) first
    | error e => exact ⟨other.after sql, rfl, first⟩

/-- Rows in place of those of a table make the table agree, also when they are refused. -/
theorem runEach_replaceRows_agreeOn (agree : s.store.AgreeOn agreed other) {table : String}
    (word : IsWord table) (rows : List Row) :
    ∃ after, (s.withStore other).runEach (replaceRows table rows) =
        ((s.runEach (replaceRows table rows)).1,
          (s.runEach (replaceRows table rows)).2.withStore after) ∧
      (s.runEach (replaceRows table rows)).2.store.AgreeOn
        (fun name => agreed name ∨ Store.key name = Store.key table) after := by
  have emptied := agree.after_deleteStatement word
  rw [replaceRows, runEach_cons, runEach_cons, run_fst_congr agree.contains, run_snd, run_snd]
  cases (s.run (deleteStatement table)).1 with
  | ok => exact runEach_agreeOn (s := { s with store := s.store.after _ }) emptied _
  | error e => exact ⟨other.after _, rfl, emptied⟩

end Session

namespace Grader

/-- Targets have the same result over stores that agree; when all are in place, their tables agree
too. -/
theorem seedTables_agreeOn {agreed : String → Prop} {g : Grader} {other : Store}
    (agree : g.session.store.AgreeOn agreed other) {targets : List (String × List Row)}
    (words : ∀ target ∈ targets, IsWord target.1) :
    ∃ after, (g.withStore other).seedTables targets =
        ((g.seedTables targets).1, (g.seedTables targets).2.withStore after) ∧
      ((g.seedTables targets).1 = .ok () →
        ((g.seedTables targets).2.session.store.AgreeOn
          (fun name => agreed name ∨ ∃ target ∈ targets, Store.key name = Store.key target.1)
          after)) := by
  induction targets generalizing g other agreed with
  | nil =>
    refine ⟨other, rfl, fun _ => ⟨agree.contains, fun name member => ?_⟩⟩
    exact agree.rows? name (by simpa using member)
  | cons target rest ih =>
    obtain ⟨table, rows⟩ := target
    have word := words (table, rows) List.mem_cons_self
    obtain ⟨after, sameRun, placed⟩ :=
      Session.runEach_replaceRows_agreeOn agree word rows
    have otherRun : (g.withStore other).session.runEach (replaceRows table rows) = _ := sameRun
    rw [seedTables_cons, seedTables_cons, otherRun]
    cases ran : g.session.runEach (replaceRows table rows) with
    | mk result session =>
      rw [ran] at placed
      cases result with
      | error e =>
        refine ⟨after, rfl, ?_⟩
        intro succeeded
        cases succeeded
      | ok =>
        obtain ⟨last, same, all⟩ := ih (g := { g with session }) placed
          fun target member => words target (List.mem_cons_of_mem _ member)
        refine ⟨last, same, fun succeeded => ?_⟩
        have agreeAll := all succeeded
        refine ⟨agreeAll.contains, fun name member => agreeAll.rows? name ?_⟩
        simpa [or_assoc] using member

/-- A query that is no `SELECT`, or reads no table, or reads a table that the seed of its test puts
rows in, has the same result in all graders with the same rules and the same tables, whatever rows
these hold. -/
theorem gradeQuery_seeded (g : Grader) (other : Store) {test : QueryTest}
    {defaultTable : String} {submitted? : Option String}
    (sameTables : ∀ name, name ∈ other.tableNames ↔ name ∈ g.session.store.tableNames)
    (words : ∀ target ∈ test.targets defaultTable, IsWord target.1)
    (reads : ReadsAmong ((test.targets defaultTable).map (·.1)) (submitted?.getD test.query)) :
    ((g.withStore other).gradeQuery test defaultTable submitted?).1 =
      (g.gradeQuery test defaultTable submitted?).1 := by
  have agree : g.session.store.AgreeOn (fun _ => False) other :=
    ⟨Store.contains_congr sameTables, fun _ => False.elim⟩
  obtain ⟨after, sameSeed, placed⟩ := seedTables_agreeOn agree words
  unfold gradeQuery
  rw [seed_eq, seed_eq, sameSeed]
  cases seeded : g.seedTables (test.targets defaultTable) with
  | mk result next =>
    rw [seeded] at placed
    cases result with
    | error e => rfl
    | ok =>
      have answered : (next.withStore after).answerRows (submitted?.getD test.query) =
          next.answerRows (submitted?.getD test.query) := by
        have same : (next.withStore after).session.exec (submitted?.getD test.query) =
            next.session.exec (submitted?.getD test.query) := by
          refine Session.exec_congr reads fun named member => ?_
          obtain ⟨target, isTarget, rfl⟩ := List.mem_map.1 member
          exact (placed rfl).rows? target.1 (.inr ⟨target, isTarget, rfl⟩)
        rw [answerRows, answerRows, same]
      dsimp only
      rw [answered]
      cases next.answerRows (submitted?.getD test.query) <;> rfl

/-- Two graders with other rows in the same tables, and a query that names the table of the seed in
other letters. Without the seed their answers differ. -/
theorem gradeQuery_seeded_users :
    let g : Grader :=
      ⟨⟨⟨[("users", [[.integer 7]]), ("posts", [])]⟩, .empty, .strict, .row, .builtin⟩, .exact⟩
    let other : Store := ⟨[("posts", [[.integer 8]]), ("users", [])]⟩
    let test : QueryTest :=
      ⟨"count", "", "SELECT * FROM posts", some (.rows [[.integer 1], [.integer 2]]), [], 10⟩
    let submitted := "SELECT COUNT(*) FROM USERS"
    ((g.withStore other).answerRows submitted).toOption ≠ (g.answerRows submitted).toOption ∧
    ((g.withStore other).gradeQuery test "Users" (some submitted)).1 =
      (g.gradeQuery test "Users" (some submitted)).1 := by
  intro g other test submitted
  refine ⟨by decide +kernel, g.gradeQuery_seeded other ?_ (by decide) ?_⟩
  · intro name
    simp [Store.tableNames_eq, g, other, or_comm]
  · have read : Statement.parse submitted =
        .ok (.select ⟨[.countAll], some "USERS", none, none, none⟩) :=
      Lexer.eq_ok_of_toOption (by decide +kernel)
    intro query table parsed source
    rw [Option.getD_some, read] at parsed
    cases parsed
    cases source
    exact ⟨"Users", by decide, by decide +kernel⟩

end Grader

end SqlGrader
