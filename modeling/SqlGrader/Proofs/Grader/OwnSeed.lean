import SqlGrader.Proofs.Grader.Reports
import SqlGrader.Proofs.Grader.SeededTables

/-!
# Tests that expect their own seed

A test that asks for the table in which it has put its rows is answered with what is stored for
them. Every cell is stored as one that equals it, whatever text or number it is, except that null is
stored as a text. Main statement: under the exact policy a test that expects the rows of its seed
passes exactly when none of their cells is null (`gradeQuery_ownSeed`).
-/

set_option autoImplicit false

namespace SqlGrader

/-! ## Rows and what is stored for them -/

/-- A cell equals what is stored for it, unless it is null. -/
theorem Cell.equals_iff_of_storedAs {cell stored : Cell} (kept : cell.StoredAs stored) :
    cell.equals stored = true ↔ cell ≠ .null := by
  have value := kept.value
  cases cell with
  | null =>
    obtain rfl : stored = .text "NULL" := value
    simp [equals]
  | text s =>
    obtain rfl : stored = .text s := value
    simp [equals]
  | integer i => exact iff_of_true value.2 (by simp)
  | float x => exact iff_of_true value.2 (by simp)

namespace Row

theorem equals_cons (a b : Cell) (r s : Row) :
    equals (a :: r) (b :: s) = (a.equals b && equals r s) := rfl

theorem allEqual_cons (r s : Row) (rs ss : List Row) :
    allEqual (r :: rs) (s :: ss) = (r.equals s && allEqual rs ss) := rfl

theorem equals_iff_of_storedAs {row stored : Row} (kept : List.Forall₂ Cell.StoredAs row stored) :
    row.equals stored = true ↔ .null ∉ row := by
  induction kept with
  | nil => exact iff_of_true rfl (by simp)
  | cons first rest ih =>
    rw [equals_cons, Bool.and_eq_true, Cell.equals_iff_of_storedAs first, ih, List.mem_cons, not_or,
      ne_comm]

/-- Rows equal what is stored for them exactly when none of their cells is null. -/
theorem allEqual_iff_of_allStoredAs {rows stored : List Row} (kept : AllStoredAs rows stored) :
    allEqual rows stored = true ↔ ∀ row ∈ rows, .null ∉ row := by
  induction kept with
  | nil => exact iff_of_true rfl (by simp)
  | cons first rest ih =>
    rw [allEqual_cons, Bool.and_eq_true, equals_iff_of_storedAs first, ih, List.forall_mem_cons]

end Row

/-! ## The test -/

namespace Grader

variable {g : Grader} {test : QueryTest} {defaultTable table : String} {rows : List Row}
  {submitted? : Option String}

/-- A test that seeds one table and asks for all of it is answered with the rows that are stored for
those of its seed. -/
theorem gradeQuery_of_seededTable (word : IsWord table)
    (there : g.session.store.contains table = true) (finite : Row.AllFinite rows)
    (seeds : test.targets defaultTable = [(table, rows)])
    (asks : submitted?.getD test.query = tableQuery table) :
    ∃ stored, Row.AllStoredAs rows stored ∧
      (g.gradeQuery test defaultTable submitted?).1 =
        compareResult g.policy test (tableQuery table) stored := by
  obtain ⟨placed, seeded⟩ := @seeded_seedTables g [(table, rows)] (by simpa using word)
    (by simpa using finite) (.inr (by simpa using there))
  obtain ⟨stored, found, kept⟩ := seeded.replaced [] table rows [] rfl (by simp) table rfl there
  rw [← seeds, ← seed_eq] at placed found
  have answered := Session.exec_tableQuery (g.seed test defaultTable).2.session word
  rw [Store.rows, found, Option.getD_some] at answered
  have decided := g.gradeQuery_decides test defaultTable submitted?
  rw [asks] at decided
  refine ⟨stored, kept, ?_⟩
  generalize (g.gradeQuery test defaultTable submitted?).1 = result at decided ⊢
  cases decided with
  | unseeded failed =>
    rw [failed] at placed
    cases placed
  | unanswered seeding failed =>
    rw [failed] at answered
    cases answered
  | compared seeding compared =>
    rw [answered] at compared
    cases compared
    rfl

/-- Under the exact policy and whatever rules, a test that expects the rows it puts into a table and
asks for all of the table passes with all its points, if no cell of the rows is null. With a null
among them it fails, since null is stored as the text `NULL`. -/
theorem gradeQuery_ownSeed (exact : g.policy = .exact) (word : IsWord table)
    (there : g.session.store.contains table = true) (finite : Row.AllFinite rows)
    (seeds : test.targets defaultTable = [(table, rows)])
    (asks : submitted?.getD test.query = tableQuery table) (expects : test.expectedOutput = rows) :
    let result := (g.gradeQuery test defaultTable submitted?).1
    (result.passed = true ↔ ∀ row ∈ rows, .null ∉ row) ∧
    (result.passed = true → result.points = test.points) ∧
    (result.passed = false → result.points = 0) := by
  intro result
  obtain ⟨stored, kept, compared⟩ :=
    @gradeQuery_of_seededTable g test defaultTable table rows submitted? word there finite seeds
      asks
  have graded : result = exactResult test (tableQuery table) stored := by
    rw [exact, compareResult] at compared
    exact compared
  have passed : result.passed = Row.allEqual rows stored := by
    rw [graded, exactResult, expects]
  have points : result.points = if result.passed then test.points else 0 := by
    rw [graded]
    rfl
  refine ⟨?_, fun all => ?_, fun failed => ?_⟩
  · rw [passed]
    exact Row.allEqual_iff_of_allStoredAs kept
  · rw [points, if_pos all]
  · rw [points, failed]
    rfl

/-- A table named by a keyword, and cells whose texts are easily misread: quotes and the end of a
statement, the least integer, the negative zero, an integer beyond `2 ^ 53` and a number with three
hundred digits. -/
theorem gradeQuery_ownSeed_order :
    let rows : List Row := [[.text "it's; --", .integer Int64.minValue, .float (.zero true)], [],
      [.text "NULL", .integer 9007199254740993, .float (.ofDecimal false ⟨1, 300⟩)]]
    let test : QueryTest := ⟨"rows", "", "SELECT * FROM Order", some (.rows rows), rows, 10⟩
    let g : Grader :=
      ⟨⟨⟨[("order", [[.null]]), ("t", [])]⟩, .empty, .strict, .column, .builtin⟩, .exact⟩
    let result := (g.gradeQuery test "Order" none).1
    result.passed = true ∧ result.points = 10 := by
  intro rows test g
  have word : IsWord "Order" := by decide
  have there : g.session.store.contains "Order" = true := by decide +kernel
  have finite : Row.AllFinite rows := by decide +kernel
  have noNull : ∀ row ∈ rows, .null ∉ row := by decide
  obtain ⟨passed, points, -⟩ := @gradeQuery_ownSeed g test "Order" "Order" rows none rfl word there
    finite rfl rfl rfl
  exact ⟨passed.2 noNull, points (passed.2 noNull)⟩

/-- A row with a null does not equal the row that is stored for it. -/
theorem not_always_passed_of_ownSeed :
    ¬ ∀ (g : Grader) (test : QueryTest) (table : String) (rows : List Row), g.policy = .exact →
      IsWord table → g.session.store.contains table = true → Row.AllFinite rows →
      test.seed? = some (.rows rows) → test.query = tableQuery table → test.expectedOutput = rows →
      (g.gradeQuery test table none).1.passed = true ∧
        (g.gradeQuery test table none).1.points = test.points := by
  intro always
  let g : Grader := ⟨⟨⟨[("t", [])]⟩, .empty, .strict, .row, .builtin⟩, .exact⟩
  let test : QueryTest := ⟨"rows", "", "SELECT * FROM t", some (.rows [[.null]]), [[.null]], 10⟩
  have failed : (g.gradeQuery test "t" none).1.passed = false := by decide +kernel
  obtain ⟨passed, -⟩ := always g test "t" [[.null]] rfl (by decide) (by decide +kernel) (by decide)
    rfl rfl rfl
  rw [failed] at passed
  cases passed

end Grader

end SqlGrader
