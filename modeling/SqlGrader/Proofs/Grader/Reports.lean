import Mathlib.Data.List.Forall2
import SqlGrader.Proofs.Grader.TestOrder

/-!
# What a report says

A report has one result for each test, in their order, and each result keeps to its test: its name,
its points and what the answer earns of them. Main statement: `runAll_report`.
-/

set_option autoImplicit false

namespace SqlGrader

/-! ## One result -/

/-- A result names its test, gives no more than its points, and gives all of them if it passed. -/
structure TestResult.KeepsTo (result : TestResult) (test : TestCase) : Prop where
  name : result.name = test.name
  maxPoints : result.maxPoints = test.points
  points_le : result.points ≤ result.maxPoints
  points_of_passed : result.passed = true → result.points = result.maxPoints

/-- A result that gives all points or none keeps to its test. -/
theorem TestResult.KeepsTo.allOrNothing {result : TestResult} {test : TestCase}
    (name : result.name = test.name) (maxPoints : result.maxPoints = test.points)
    (points : result.points = if result.passed then test.points else 0) :
    result.KeepsTo test := by
  refine ⟨name, maxPoints, ?_, fun passed => ?_⟩
  · rw [points, maxPoints]
    split
    · exact Nat.le_refl _
    · exact Nat.zero_le _
  · rw [points, maxPoints, if_pos passed]

namespace Grader

theorem gradeSchema_keepsTo (test : SchemaTest) (schema : Schema) :
    (gradeSchema test schema).KeepsTo (.schema test) :=
  .allOrNothing rfl rfl (by simp [gradeSchema, TestCase.points])

theorem failedResult_keepsTo (test : QueryTest) (query : String) (e : GradeError) :
    (failedResult test query e).KeepsTo (.query test) :=
  .allOrNothing rfl rfl rfl

theorem exactResult_keepsTo (test : QueryTest) (query : String) (actual : List Row) :
    (exactResult test query actual).KeepsTo (.query test) :=
  .allOrNothing rfl rfl rfl

theorem fuzzyResult_keepsTo (test : QueryTest) (query : String) (actual : List Row) :
    (fuzzyResult test query actual).KeepsTo (.query test) := by
  refine ⟨rfl, rfl, award_le _ _, fun passed => ?_⟩
  simp only [fuzzyResult, decide_eq_true_eq] at passed ⊢
  rw [passed]
  rfl

theorem compareResult_keepsTo (policy : ComparePolicy) (test : QueryTest) (query : String)
    (actual : List Row) : (compareResult policy test query actual).KeepsTo (.query test) := by
  cases policy with
  | exact => exact exactResult_keepsTo test query actual
  | fuzzy => exact fuzzyResult_keepsTo test query actual

theorem compareResult_query? (policy : ComparePolicy) (test : QueryTest) (query : String)
    (actual : List Row) : (compareResult policy test query actual).query? = some query := by
  cases policy <;> rfl

/-- How a query comes to its result in a grader. The rows of its test cannot be put in place; or the
session behind them is asked, and refuses the query or gives an answer, whose rows are compared. A
text that is no query gives no rows. -/
inductive Decides (g : Grader) (defaultTable : String) (test : QueryTest) (query : String) :
    TestResult → Prop where
  | unseeded {e : GradeError} (failed : (g.seed test defaultTable).1 = .error e) :
      Decides g defaultTable test query (failedResult test query e)
  | unanswered {e : ExecutionError} (seeded : (g.seed test defaultTable).1 = .ok ())
      (failed : (g.seed test defaultTable).2.session.exec query = .error e) :
      Decides g defaultTable test query (failedResult test query (.execution e))
  | compared {answer? : Option ResultSet} (seeded : (g.seed test defaultTable).1 = .ok ())
      (answered : (g.seed test defaultTable).2.session.exec query = .ok answer?) :
      Decides g defaultTable test query
        (compareResult g.policy test query ((answer?.map (·.rows)).getD []))

/-- The rows of a test cannot be put in place, or the session behind them refuses the query. -/
def Fails (g : Grader) (defaultTable : String) (test : QueryTest) (query : String) : Prop :=
  (∃ e, (g.seed test defaultTable).1 = .error e) ∨
    ∃ e, (g.seed test defaultTable).2.session.exec query = .error e

theorem Decides.query? {g : Grader} {defaultTable : String} {test : QueryTest} {query : String}
    {result : TestResult} (h : g.Decides defaultTable test query result) :
    result.query? = some query := by
  cases h with
  | unseeded failed => rfl
  | unanswered seeded failed => rfl
  | compared seeded answered => exact compareResult_query? _ _ _ _

/-- A test that fails before its answer is compared earns nothing. -/
theorem Decides.points_of_fails {g : Grader} {defaultTable : String} {test : QueryTest}
    {query : String} {result : TestResult} (h : g.Decides defaultTable test query result)
    (fails : g.Fails defaultTable test query) : result.points = 0 := by
  cases h with
  | unseeded failed => rfl
  | unanswered seeded failed => rfl
  | compared seeded answered =>
    rcases fails with ⟨e, failed⟩ | ⟨e, failed⟩
    · rw [failed] at seeded
      cases seeded
    · rw [failed] at answered
      cases answered

theorem Decides.keepsTo {g : Grader} {defaultTable : String} {test : QueryTest} {query : String}
    {result : TestResult} (h : g.Decides defaultTable test query result) :
    result.KeepsTo (.query test) := by
  cases h with
  | unseeded failed => exact failedResult_keepsTo _ _ _
  | unanswered seeded failed => exact failedResult_keepsTo _ _ _
  | compared seeded answered => exact compareResult_keepsTo _ _ _ _

theorem answerRows_of_error {g : Grader} {query : String} {e : ExecutionError}
    (failed : g.session.exec query = .error e) : g.answerRows query = .error (.execution e) := by
  rw [answerRows, failed]

theorem answerRows_of_ok {g : Grader} {query : String} {answer? : Option ResultSet}
    (answered : g.session.exec query = .ok answer?) :
    g.answerRows query = .ok ((answer?.map (·.rows)).getD []) := by
  rw [answerRows, answered]
  cases answer? with
  | none => rfl
  | some answer => rfl

theorem gradeQuery_decides (g : Grader) (test : QueryTest) (defaultTable : String)
    (submitted? : Option String) :
    g.Decides defaultTable test (submitted?.getD test.query)
      (g.gradeQuery test defaultTable submitted?).1 := by
  have policy : (g.seed test defaultTable).2.policy = g.policy := by
    rw [seed_snd]
    rfl
  unfold gradeQuery
  dsimp only
  split
  · rename_i e seeded seeding
    exact .unseeded (by rw [seeding])
  · rename_i seeded seeding
    have placed : (g.seed test defaultTable).1 = .ok () := by rw [seeding]
    -- the answer is compared by the policy of the grader behind the seed, which is that of `g`
    rw [seeding] at policy
    dsimp only at policy
    cases asked : seeded.session.exec (submitted?.getD test.query) with
    | error e =>
      rw [answerRows_of_error asked]
      exact .unanswered placed (by rw [seeding]; exact asked)
    | ok answer? =>
      rw [answerRows_of_ok asked, policy]
      exact .compared placed (by rw [seeding]; exact asked)

theorem resultOf_keepsTo (g : Grader) (schema : Schema) (defaultTable : String)
    (submitted? : Option String) (test : TestCase) :
    (g.resultOf schema defaultTable submitted? test).KeepsTo test := by
  cases test with
  | schema test => exact gradeSchema_keepsTo test schema
  | query test => exact (g.gradeQuery_decides test defaultTable submitted?).keepsTo

theorem gradeEach_keepsTo (g : Grader) (schema : Schema) (defaultTable : String)
    (tests : List TestCase) (submitted : List String) :
    List.Forall₂ TestResult.KeepsTo (g.gradeEach schema defaultTable tests submitted).1 tests := by
  induction tests generalizing g submitted with
  | nil => exact .nil
  | cons test rest ih =>
    rw [gradeEach_cons]
    exact .cons (g.resultOf_keepsTo schema defaultTable submitted.head? test) (ih _ _)

end Grader

/-! ## Sums -/

namespace TestResult

variable {results : List TestResult} {tests : List TestCase}
  (keepsTo : List.Forall₂ TestResult.KeepsTo results tests)

include keepsTo

theorem points_le_of_keepsTo : ∀ result ∈ results, result.points ≤ result.maxPoints := by
  induction keepsTo with
  | nil => exact List.forall_mem_nil _
  | cons first others ih => exact List.forall_mem_cons.2 ⟨first.points_le, ih⟩

theorem atStake_eq_of_keepsTo :
    results.foldr (fun result total => result.maxPoints + total) 0 =
      tests.foldr (fun test total => test.points + total) 0 := by
  induction keepsTo with
  | nil => rfl
  | cons first others ih => exact congrArg₂ (· + ·) first.maxPoints ih

end TestResult

/-- The points of a problem are the exact sum over its tests, if that fits 32 bits. -/
theorem Problem.totalPoints?_eq_some {problem : Problem}
    (fits : problem.testCases.foldr (fun test total => test.points + total) 0 < UInt32.size) :
    problem.totalPoints? =
      some (problem.testCases.foldr (fun test total => test.points + total) 0) := by
  rw [totalPoints?, sumPoints?_eq_some_iff, List.foldr_map]
  exact ⟨rfl, fits⟩

namespace Grader

/-- For a schema that can be built and a problem whose points fit 32 bits, grading comes to a report
with one result for each test, in their order. A schema test is graded against the schema. A query
test takes the query whose number is its own among the query tests, or else its own one, and is
decided by what the session behind the tests before it makes of that query. The sums are those of
the points, and the points at stake are the problem's. -/
theorem runAll_report {g : Grader} {schema : Schema} {count : Nat} (problem : Problem)
    (submitted : List String) (tables : schema.isEmpty = false)
    (built : (g.reset.loadSchema schema).1 = .ok count)
    (fits : problem.testCases.foldr (fun test total => test.points + total) 0 < UInt32.size) :
    ∃ report, (g.runAll problem schema submitted).1 = .ok report ∧
      report.results.length = problem.testCases.length ∧
      (∀ (i : Nat) (test : TestCase), problem.testCases[i]? = some test →
        ∃ result, report.results[i]? = some result ∧ result.KeepsTo test) ∧
      (∀ (i : Nat) (test : SchemaTest), problem.testCases[i]? = some (.schema test) →
        report.results[i]? = some (gradeSchema test schema) ∧
          (gradeSchema test schema).query? = none) ∧
      (∀ (i : Nat) (test : QueryTest), problem.testCases[i]? = some (.query test) →
        let earlier := problem.testCases.take i
        let before := (g.reset.loadSchema schema).2.afterCases (seedTable schema) earlier
        let query := (submitted[earlier.countP (·.isQuery)]?).getD test.query
        before = g.withStore before.session.store ∧
        ∃ result, report.results[i]? = some result ∧ result.query? = some query ∧
          before.Decides (seedTable schema) test query result ∧
          (before.Fails (seedTable schema) test query → result.points = 0)) ∧
      report.score = report.results.foldr (fun result total => result.points + total) 0 ∧
      problem.totalPoints? = some report.maxScore ∧
      report.score ≤ report.maxScore := by
  have ran := runAll_of_loadSchema_ok problem submitted tables built
  have rules := g.reset.loadSchema_snd schema
  generalize (g.reset.loadSchema schema).2 = loaded at ran rules ⊢
  have keepsTo := loaded.gradeEach_keepsTo schema (seedTable schema) problem.testCases submitted
  have resultAt : ∀ (i : Nat) (test : TestCase), problem.testCases[i]? = some test →
      (loaded.gradeEach schema (seedTable schema) problem.testCases submitted).1[i]? =
        some ((loaded.afterCases (seedTable schema) (problem.testCases.take i)).resultOf schema
          (seedTable schema) submitted[(problem.testCases.take i).countP (·.isQuery)]? test) := by
    intro i test found
    rw [getElem?_gradeEach, found]
    rfl
  have bounded := TestResult.points_le_of_keepsTo keepsTo
  have atStake := TestResult.atStake_eq_of_keepsTo keepsTo
  have made := Report.ofResults?_of_bounded bounded (by rw [atStake]; exact fits)
  refine ⟨_, by rw [ran, made]; rfl, keepsTo.length_eq, ?_, ?_, ?_, rfl, ?_,
    Report.earned_le_atStake bounded⟩
  · intro i test found
    exact ⟨_, resultAt i test found, resultOf_keepsTo _ _ _ _ _⟩
  · intro i test found
    exact ⟨resultAt i (.schema test) found, rfl⟩
  · intro i test found earlier before query
    have decided := before.gradeQuery_decides test (seedTable schema)
      submitted[earlier.countP (·.isQuery)]?
    have changed : before = loaded.withStore before.session.store :=
      loaded.afterCases_snd earlier
    have sameRules : before = g.withStore before.session.store :=
      changed.trans (congrArg (fun g => g.withStore before.session.store) rules)
    exact ⟨sameRules, _, resultAt i (.query test) found, decided.query?, decided,
      decided.points_of_fails⟩
  · rw [atStake]
    exact Problem.totalPoints?_eq_some fits

/-- A query test that fails still uses up the query handed in for it, and a schema test uses up
none. -/
theorem runAll_report_three_tests :
    let g : Grader := ⟨.start .empty .strict .row .builtin, .exact⟩
    let schema : Schema := ⟨[⟨"t", [⟨"id", "INT", true, false⟩]⟩]⟩
    let unseeded : QueryTest := ⟨"unseeded", "", "SELECT * FROM t",
      some (.tables [("u", [[.integer 1]])]), [], 5⟩
    let counted : QueryTest := ⟨"counted", "", "SELECT COUNT(*) FROM t", none, [[.integer 0]], 10⟩
    let tests : List TestCase := [.query unseeded, .schema ⟨"tables", "", [⟨"t", ["id"]⟩], 3⟩,
      .query counted]
    let problem : Problem := ⟨1, "", .easy, "", [], [], tests⟩
    ∃ report, (g.runAll problem schema ["SELECT * FROM t"]).1 = .ok report ∧
      report.results.length = 3 ∧ report.maxScore = 18 ∧ report.score ≤ 18 ∧
      (∃ result, report.results[0]? = some result ∧ result.name = "unseeded" ∧
        result.query? = some "SELECT * FROM t" ∧ result.points = 0) ∧
      (∃ result, report.results[2]? = some result ∧
        result.query? = some "SELECT COUNT(*) FROM t") := by
  intro g schema unseeded counted tests problem
  have loads : (g.reset.loadSchema schema).1.toOption = some 1 := by decide +kernel
  have refused : ((g.reset.loadSchema schema).2.seed unseeded (seedTable schema)).1.toOption =
      none := by decide +kernel
  have total : problem.totalPoints? = some 18 := by decide
  cases built : (g.reset.loadSchema schema).1 with
  | error e =>
    rw [built] at loads
    cases loads
  | ok count =>
    obtain ⟨report, ran, length, keepTo, -, queries, -, maxScore, score⟩ :=
      runAll_report problem ["SELECT * FROM t"] rfl built (by decide)
    obtain maxScore := Option.some.inj (maxScore.symm.trans total)
    rw [maxScore] at score
    obtain ⟨-, first, foundFirst, reported, -, points⟩ := queries 0 unseeded rfl
    obtain ⟨same, foundSame, keeps⟩ := keepTo 0 (.query unseeded) rfl
    obtain ⟨-, last, foundLast, ownQuery, -, -⟩ := queries 2 counted rfl
    obtain rfl : first = same := Option.some.inj (foundFirst.symm.trans foundSame)
    refine ⟨report, ran, length, maxScore, score,
      ⟨first, foundFirst, keeps.name, reported, points ?_⟩, last, foundLast, ownQuery⟩
    cases seeded : ((g.reset.loadSchema schema).2.seed unseeded (seedTable schema)).1 with
    | error e => exact .inl ⟨e, seeded⟩
    | ok =>
      rw [seeded] at refused
      cases refused

end Grader

end SqlGrader
