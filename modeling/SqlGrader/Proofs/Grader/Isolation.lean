import SqlGrader.Proofs.Grader.TestOrder
import SqlGrader.Proofs.Session.History
import SqlGrader.Proofs.Statement.FirstKeyword

/-!
# Isolated gradings

A grading begins with a reset, so that no earlier table has a part in it. The texts that put rows in
place are put together from names and cells of any kind, and yet they neither create nor drop a
table; a query handed in does not even reach the store. Main statement: `runAll_isolated`.
-/

set_option autoImplicit false

namespace SqlGrader

namespace Store

theorem tableNames_eq (store : Store) :
    store.tableNames = (store.tables.map (·.1)).mergeSort fun a b => decide (a ≤ b) :=
  List.map_mergeSort fun _ _ _ _ => rfl

/-- The names of the tables tell which tables there are. -/
theorem contains_iff_mem_tableNames (store : Store) (name : String) :
    store.contains name = true ↔ key name ∈ store.tableNames := by
  rw [tableNames_eq, List.mem_mergeSort, contains, rows?, List.lookup_isSome_iff]
  constructor
  · intro there
    obtain ⟨entry, member, same⟩ := there
    exact List.mem_map.2 ⟨entry, member, (eq_of_beq same).symm⟩
  · intro named
    obtain ⟨entry, member, same⟩ := List.mem_map.1 named
    exact ⟨entry, member, beq_iff_eq.2 same.symm⟩

theorem contains_congr {store other : Store}
    (same : ∀ name, name ∈ other.tableNames ↔ name ∈ store.tableNames) (name : String) :
    other.contains name = store.contains name := by
  rw [Bool.eq_iff_iff, contains_iff_mem_tableNames, contains_iff_mem_tableNames]
  exact same (key name)

theorem tableNames_modify (store : Store) (name : String) (change : List Row → List Row) :
    (store.modify name change).tableNames = store.tableNames := by
  have kept : (store.modify name change).tables.map (·.1) = store.tables.map (·.1) := by
    rw [modify, List.map_map]
    refine List.map_congr_left fun entry _ => ?_
    by_cases named : entry.1 = key name
    · simp [named]
    · simp [named]
  rw [tableNames_eq, tableNames_eq, kept]

theorem tableNames_changeRows (store : Store) (name : String) (change : List Row → List Row) :
    (store.changeRows .strict name change).2.tableNames = store.tableNames := by
  unfold changeRows
  split
  · exact store.tableNames_modify name change
  · rfl

/-- Only the creation and the removal of a table change which tables there are. -/
theorem tableNames_afterStatement (store : Store) {statement : Statement}
    (h : statement.settles = false) :
    (store.afterStatement statement).tableNames = store.tableNames := by
  cases statement with
  | createTable name => cases h
  | dropTable name ifExists => cases h
  | delete name => exact store.tableNames_changeRows name _
  | insert name values => exact store.tableNames_changeRows name _
  | select query => rfl

end Store

/-- A text that neither creates nor drops a table. -/
def KeepsTables (sql : String) : Prop :=
  ∀ statement, Statement.parse sql = .ok statement → statement.settles = false

theorem keepsTables_deleteStatement (table : String) : KeepsTables (deleteStatement table) := by
  intro statement parsed
  obtain ⟨named, rfl⟩ := delete_of_parse parsed
  rfl

theorem keepsTables_insertStatement (table : String) (row : Row) :
    KeepsTables (insertStatement table row) := by
  intro statement parsed
  obtain ⟨named, rows, rfl⟩ := insert_of_parse parsed
  rfl

/-- The statements that put rows in place of those of a table. -/
def replaceRows (table : String) (rows : List Row) : List String :=
  deleteStatement table :: rows.map (insertStatement table)

theorem keepsTables_replaceRows (table : String) (rows : List Row) :
    ∀ sql ∈ replaceRows table rows, KeepsTables sql := by
  intro sql member
  rcases List.mem_cons.1 member with rfl | member
  · exact keepsTables_deleteStatement table
  · obtain ⟨row, -, rfl⟩ := List.mem_map.1 member
    exact keepsTables_insertStatement table row

namespace Session

theorem tableNames_run (s : Session) {sql : String} (keeps : KeepsTables sql) :
    (s.run sql).2.store.tableNames = s.store.tableNames := by
  rw [run_snd]
  unfold Store.after
  dsimp only
  split
  · rename_i statement parsed
    exact s.store.tableNames_afterStatement (keeps statement parsed)
  · rfl

theorem tableNames_runEach (s : Session) {statements : List String}
    (keep : ∀ sql ∈ statements, KeepsTables sql) :
    (s.runEach statements).2.store.tableNames = s.store.tableNames := by
  induction statements generalizing s with
  | nil => rfl
  | cons sql rest ih =>
    have first := s.tableNames_run (keep sql List.mem_cons_self)
    rw [runEach_cons]
    split
    · rw [ih _ fun other member => keep other (List.mem_cons_of_mem sql member), first]
    · exact first

end Session

namespace Grader

theorem tableNames_seedTables (g : Grader) (targets : List (String × List Row)) :
    (g.seedTables targets).2.session.store.tableNames = g.session.store.tableNames := by
  induction targets generalizing g with
  | nil => rfl
  | cons target rest ih =>
    obtain ⟨table, rows⟩ := target
    have kept := g.session.tableNames_runEach (keepsTables_replaceRows table rows)
    unfold replaceRows at kept
    unfold seedTables
    split
    · rename_i session ran
      rw [ran] at kept
      rw [ih]
      exact kept
    · rename_i e session ran
      rw [ran] at kept
      exact kept

theorem tableNames_seed (g : Grader) (test : QueryTest) (defaultTable : String) :
    (g.seed test defaultTable).2.session.store.tableNames = g.session.store.tableNames := by
  unfold seed
  split
  · rfl
  · exact g.tableNames_seedTables _

theorem tableNames_afterCases (g : Grader) (defaultTable : String) (tests : List TestCase) :
    (g.afterCases defaultTable tests).session.store.tableNames =
      g.session.store.tableNames := by
  unfold afterCases
  induction tests generalizing g with
  | nil => rfl
  | cons test rest ih =>
    rw [List.foldl_cons, ih]
    cases test with
    | schema test => rfl
    | query test => exact g.tableNames_seed test defaultTable

/-- A schema that cannot be built is another error than one without tables. -/
theorem loadSchema_ne_emptySchema (g : Grader) (schema : Schema) :
    (g.loadSchema schema).1 ≠ .error .emptySchema := by
  unfold loadSchema
  dsimp only
  cases (g.session.runScript schema.ddl).1 with
  | error cause =>
    intro same
    cases same
  | ok count =>
    intro same
    cases same

theorem runAll_ne_emptySchema (g : Grader) (problem : Problem) {schema : Schema}
    (submitted : List String) (tables : schema.isEmpty = false) :
    (g.runAll problem schema submitted).1 ≠ .error .emptySchema := by
  intro noTables
  cases built : (g.reset.loadSchema schema).1 with
  | error e =>
    rw [runAll_of_loadSchema_error problem submitted tables built] at noTables
    cases noTables
    exact g.reset.loadSchema_ne_emptySchema schema built
  | ok count =>
    rw [runAll_of_loadSchema_ok problem submitted tables built] at noTables
    -- with the tables built, only the sum of the points can fail
    revert noTables
    cases Report.ofResults? _ with
    | none =>
      intro noTables
      cases noTables
    | some report =>
      intro noTables
      cases noTables

/-- A report is made only of tables that are built, and these are the tables behind it. -/
theorem exists_loaded_of_report {g : Grader} {problem : Problem} {schema : Schema}
    {submitted : List String} {report : Report} (tables : schema.isEmpty = false)
    (reported : (g.runAll problem schema submitted).1 = .ok report) :
    ∃ count, (g.reset.loadSchema schema).1 = .ok count ∧
      (g.runAll problem schema submitted).2.session.store.tableNames =
        (g.reset.loadSchema schema).2.session.store.tableNames := by
  cases built : (g.reset.loadSchema schema).1 with
  | error e =>
    rw [runAll_of_loadSchema_error problem submitted tables built] at reported
    cases reported
  | ok count =>
    refine ⟨count, rfl, ?_⟩
    rw [runAll_of_loadSchema_ok problem submitted tables built]
    exact tableNames_afterCases _ _ _

/-- A grading of the same tests comes to the same in all graders with the same rules, whatever
tables they held before, and ends with the same tables; only a schema without tables leaves a grader
as it was. A grading that comes to a report ends with the tables that the schema makes in a new
session: neither the rows put in place nor a query create or drop one. -/
theorem runAll_isolated (g : Grader) (other : Store) (problem : Problem) (schema : Schema)
    (submitted : List String) :
    let run := g.runAll problem schema submitted
    let otherRun := (g.withStore other).runAll problem schema submitted
    let fresh : Grader :=
      ⟨.start g.session.catalog g.session.leniency g.session.scope g.session.regex, g.policy⟩
    otherRun.1 = run.1 ∧
    (run.1 ≠ .error .emptySchema → otherRun.2.session.store = run.2.session.store) ∧
    (run.1 = .error .emptySchema →
      run.2.session.store = g.session.store ∧ otherRun.2.session.store = other) ∧
    (∀ report, run.1 = .ok report → ∃ count, (fresh.loadSchema schema).1 = .ok count ∧
      run.2.session.store.tableNames =
        (fresh.loadSchema schema).2.session.store.tableNames) ∧
    (∀ test defaultTable submitted?,
      (g.gradeQuery test defaultTable submitted?).2 = (g.seed test defaultTable).2 ∧
      (g.gradeQuery test defaultTable submitted?).2.session.store.tableNames =
        g.session.store.tableNames) ∧
    (∀ (s : Session) table row,
      (s.run (deleteStatement table)).2.store.tableNames = s.store.tableNames ∧
      (s.run (insertStatement table row)).2.store.tableNames = s.store.tableNames) := by
  intro run otherRun fresh
  have freshIsReset : fresh = g.reset := rfl
  have queries : ∀ test defaultTable submitted?,
      (g.gradeQuery test defaultTable submitted?).2 = (g.seed test defaultTable).2 ∧
      (g.gradeQuery test defaultTable submitted?).2.session.store.tableNames =
        g.session.store.tableNames := by
    intro test defaultTable submitted?
    rw [gradeQuery_snd]
    exact ⟨rfl, g.tableNames_seed test defaultTable⟩
  have texts : ∀ (s : Session) table row,
      (s.run (deleteStatement table)).2.store.tableNames = s.store.tableNames ∧
      (s.run (insertStatement table row)).2.store.tableNames = s.store.tableNames :=
    fun s table row => ⟨s.tableNames_run (keepsTables_deleteStatement table),
      s.tableNames_run (keepsTables_insertStatement table row)⟩
  cases tables : schema.isEmpty with
  | true =>
    have ran : run = (.error .emptySchema, g) := g.runAll_of_isEmpty problem submitted tables
    have otherRan : otherRun = (.error .emptySchema, g.withStore other) :=
      (g.withStore other).runAll_of_isEmpty problem submitted tables
    rw [ran, otherRan]
    refine ⟨rfl, fun different => absurd rfl different, fun _ => ⟨rfl, rfl⟩, ?_, queries, texts⟩
    intro report reported
    cases reported
  | false =>
    have same : otherRun = run := by
      simp only [otherRun, run, runAll, tables]
      rfl
    rw [same]
    refine ⟨rfl, fun _ => rfl, fun noTables => ?_, fun report reported => ?_, queries, texts⟩
    · exact absurd noTables (g.runAll_ne_emptySchema problem submitted tables)
    · rw [freshIsReset]
      exact exists_loaded_of_report tables reported

/-- A table name with a second statement in it, and a submitted query that would drop the table. -/
theorem runAll_isolated_from_table_name :
    let g : Grader := ⟨.start .empty .lenient .row .builtin, .exact⟩
    let other : Store := ⟨[("u", [[.integer 1]])]⟩
    let schema : Schema := ⟨[⟨"t", [⟨"id", "INT", true, false⟩]⟩]⟩
    let test : QueryTest := ⟨"rows", "", "SELECT * FROM t",
      some (.tables [("t; DROP TABLE t --", [[.integer 1]])]), [], 10⟩
    let problem : Problem := ⟨1, "", .easy, "", [], [], [.query test]⟩
    let submitted := ["DROP TABLE t"]
    ((g.withStore other).runAll problem schema submitted).1 =
        (g.runAll problem schema submitted).1 ∧
      ((g.withStore other).runAll problem schema submitted).2.session.store =
        (g.runAll problem schema submitted).2.session.store ∧
      (g.runAll problem schema submitted).2.session.store.tableNames =
        (g.loadSchema schema).2.session.store.tableNames ∧
      ((g.withStore other).runAll problem .empty []).2.session.store = other := by
  intro g other schema test problem submitted
  have reports : (g.runAll problem schema submitted).1.toOption.isSome = true := by
    decide +kernel
  have noTables : (g.runAll problem .empty []).1 = .error .emptySchema := rfl
  have isFresh : (⟨.start g.session.catalog g.session.leniency g.session.scope g.session.regex,
      g.policy⟩ : Grader) = g := rfl
  clear_value g problem schema
  obtain ⟨same, stores, -, names, -⟩ := g.runAll_isolated other problem schema submitted
  have unchanged := (g.runAll_isolated other problem .empty []).2.2.1 noTables
  cases ran : (g.runAll problem schema submitted).1 with
  | error e =>
    rw [ran] at reports
    cases reports
  | ok report =>
    have notEmpty : (g.runAll problem schema submitted).1 ≠ .error .emptySchema := by
      simp [ran]
    obtain ⟨count, -, sameNames⟩ := names report ran
    rw [isFresh] at sameNames
    exact ⟨same.trans ran, stores notEmpty, sameNames, unchanged.2⟩

end Grader

end SqlGrader
