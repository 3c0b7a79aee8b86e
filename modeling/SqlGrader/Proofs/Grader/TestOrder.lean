import SqlGrader.Grader
import SqlGrader.Proofs.Session.Leniency

/-!
# Tests in their order

A query leaves no trace, so that the grader in front of a test is what the rows put in place by the
tests before it make. Main statements: the grader behind tests (`gradeEach_snd`), and each result as
that of its test alone, with the query handed in for it (`getElem?_gradeEach`).
-/

set_option autoImplicit false

namespace SqlGrader

/-- Statements change nothing but the store. -/
theorem Session.runEach_snd (s : Session) (statements : List String) :
    (s.runEach statements).2 = { s with store := (s.runEach statements).2.store } := by
  induction statements generalizing s with
  | nil => rfl
  | cons sql rest ih =>
    rw [runEach_cons]
    split
    · rw [ih, run_snd]
    · rw [run_snd]

def TestCase.isQuery : TestCase → Bool
  | .query _ => true
  | .schema _ => false

namespace Grader

def withStore (g : Grader) (store : Store) : Grader :=
  { g with session := { g.session with store } }

/-! ## What changes -/

theorem seedTables_snd (g : Grader) (targets : List (String × List Row)) :
    (g.seedTables targets).2 = g.withStore (g.seedTables targets).2.session.store := by
  induction targets generalizing g with
  | nil => rfl
  | cons target rest ih =>
    obtain ⟨table, rows⟩ := target
    have run := g.session.runEach_snd (deleteStatement table :: rows.map (insertStatement table))
    unfold seedTables
    split
    · rename_i session ran
      rw [ran] at run
      have changed : ({ g with session } : Grader) = g.withStore session.store :=
        congrArg (fun session => { g with session }) run
      rw [changed, ih]
      rfl
    · rename_i e session ran
      rw [ran] at run
      exact congrArg (fun session => { g with session }) run

/-- Putting rows in place changes nothing but the store. -/
theorem seed_snd (g : Grader) (test : QueryTest) (defaultTable : String) :
    (g.seed test defaultTable).2 = g.withStore (g.seed test defaultTable).2.session.store := by
  unfold seed
  split
  · rfl
  · exact g.seedTables_snd _

/-- Building a schema changes nothing but the store. -/
theorem loadSchema_snd (g : Grader) (schema : Schema) :
    (g.loadSchema schema).2 = g.withStore (g.loadSchema schema).2.session.store :=
  congrArg (fun session => { g with session }) (g.session.runEach_snd (Script.split schema.ddl))

/-- A query leaves no trace. -/
theorem gradeQuery_snd (g : Grader) (test : QueryTest) (defaultTable : String)
    (submitted? : Option String) :
    (g.gradeQuery test defaultTable submitted?).2 = (g.seed test defaultTable).2 := by
  unfold gradeQuery
  dsimp only
  split
  · rename_i seeded
    rw [seeded]
  · rename_i seeded
    rw [seeded]
    split <;> rfl

/-! ## One test after the other -/

def afterCase (g : Grader) (defaultTable : String) : TestCase → Grader
  | .schema _ => g
  | .query test => (g.seed test defaultTable).2

def afterCases (g : Grader) (defaultTable : String) (tests : List TestCase) : Grader :=
  tests.foldl (fun g test => g.afterCase defaultTable test) g

/-- The result of one test, with the query handed in for it, if there is one. -/
def resultOf (g : Grader) (schema : Schema) (defaultTable : String) (submitted? : Option String) :
    TestCase → TestResult
  | .schema test => gradeSchema test schema
  | .query test => (g.gradeQuery test defaultTable submitted?).1

variable {schema : Schema} {defaultTable : String}

theorem afterCases_snd (g : Grader) (tests : List TestCase) :
    g.afterCases defaultTable tests =
      g.withStore (g.afterCases defaultTable tests).session.store := by
  unfold afterCases
  induction tests generalizing g with
  | nil => rfl
  | cons test rest ih =>
    rw [List.foldl_cons, ih]
    cases test with
    | schema test => rfl
    | query test =>
      rw [afterCase, seed_snd]
      rfl

/-- A test is graded in the grader in front of it, and takes a query from those handed in if it is
a test of one. -/
theorem gradeEach_cons (g : Grader) (test : TestCase) (rest : List TestCase)
    (submitted : List String) :
    g.gradeEach schema defaultTable (test :: rest) submitted =
      (g.resultOf schema defaultTable submitted.head? test ::
          ((g.afterCase defaultTable test).gradeEach schema defaultTable rest
            (submitted.drop (if test.isQuery then 1 else 0))).1,
        ((g.afterCase defaultTable test).gradeEach schema defaultTable rest
          (submitted.drop (if test.isQuery then 1 else 0))).2) := by
  cases test with
  | schema test => rfl
  | query test =>
    have step := gradeQuery_snd g test defaultTable submitted.head?
    have taken : submitted.drop (if (TestCase.query test).isQuery then 1 else 0) =
        submitted.tail := List.drop_one
    rw [gradeEach, taken, afterCase, ← step]
    rfl

/-- Whatever queries are handed in, the grader behind the tests is what their rows make. -/
theorem gradeEach_snd (g : Grader) (tests : List TestCase) (submitted : List String) :
    (g.gradeEach schema defaultTable tests submitted).2 = g.afterCases defaultTable tests := by
  induction tests generalizing g submitted with
  | nil => rfl
  | cons test rest ih =>
    rw [gradeEach_cons]
    exact ih _ _

/-- Each result is that of its test alone, in the grader behind the tests before it and with the
query whose number is that of the query tests before it. -/
theorem getElem?_gradeEach (g : Grader) (tests : List TestCase) (submitted : List String)
    (i : Nat) :
    (g.gradeEach schema defaultTable tests submitted).1[i]? =
      tests[i]?.map ((g.afterCases defaultTable (tests.take i)).resultOf schema defaultTable
        submitted[(tests.take i).countP (·.isQuery)]?) := by
  induction tests generalizing g submitted i with
  | nil => simp [gradeEach]
  | cons test rest ih =>
    rw [gradeEach_cons]
    cases i with
    | zero =>
      rw [List.take_zero, List.countP_nil, List.head?_eq_getElem?]
      rfl
    | succ i =>
      rw [List.getElem?_cons_succ, List.getElem?_cons_succ, List.take_succ_cons, List.countP_cons,
        Nat.add_comm, ← List.getElem?_drop]
      exact ih _ _ i

/-! ## Whole problems -/

def seedTable (schema : Schema) : String :=
  schema.firstTable?.getD defaultSeedTable

theorem runAll_of_isEmpty (g : Grader) (problem : Problem) {schema : Schema}
    (submitted : List String) (noTables : schema.isEmpty = true) :
    g.runAll problem schema submitted = (.error .emptySchema, g) := by
  rw [runAll, if_pos noTables]

theorem runAll_of_loadSchema_error {g : Grader} {schema : Schema} {e : GradeError}
    (problem : Problem) (submitted : List String) (tables : schema.isEmpty = false)
    (failed : (g.reset.loadSchema schema).1 = .error e) :
    g.runAll problem schema submitted = (.error e, (g.reset.loadSchema schema).2) := by
  unfold runAll
  rw [tables, if_neg Bool.false_ne_true]
  cases loading : g.reset.loadSchema schema with
  | mk result loaded =>
    rw [loading] at failed
    cases failed
    rfl

theorem runAll_of_loadSchema_ok {g : Grader} {schema : Schema} {count : Nat}
    (problem : Problem) (submitted : List String) (tables : schema.isEmpty = false)
    (built : (g.reset.loadSchema schema).1 = .ok count) :
    g.runAll problem schema submitted =
      ((Report.ofResults? ((g.reset.loadSchema schema).2.gradeEach schema (seedTable schema)
          problem.testCases submitted).1).elim (.error .pointsOverflow) .ok,
        (g.reset.loadSchema schema).2.afterCases (seedTable schema) problem.testCases) := by
  unfold runAll
  rw [tables, if_neg Bool.false_ne_true]
  cases loading : g.reset.loadSchema schema with
  | mk result loaded =>
    rw [loading] at built
    cases built
    rw [← loaded.gradeEach_snd problem.testCases submitted]
    dsimp only [seedTable]
    split
    · rename_i report made
      rw [made]
      rfl
    · rename_i overflows
      rw [overflows]
      rfl

end Grader

end SqlGrader
