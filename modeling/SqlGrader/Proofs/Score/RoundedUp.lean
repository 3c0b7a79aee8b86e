import SqlGrader.Grader
import SqlGrader.Regex.Builtin
import SqlGrader.Proofs.Binary64.RoundedRatios

/-!
# Points lost to rounding

A percentage of cells is never rounded up to all of them, but points and the percentage of a whole
report are. Main statements: a part of the cells earns all points of a test when half a point or
less is missing (`fuzzyResult_points_lt_iff`), and a report is perfect when one point in two hundred
or less is missing (`tier_eq_perfect_iff`).
-/

set_option autoImplicit false

namespace SqlGrader

/-- A part of the percentage earns a part of the points, unless the rest is half a point or less. -/
theorem award_lt_iff {points percentage : Nat} (fits : points < UInt32.size)
    (part : percentage < 100) :
    award points percentage < points ↔
      0 < points ∧ (percentage < partialCreditThreshold ∨ 50 < points * (100 - percentage)) := by
  have word : UInt32.size = 4294967296 := rfl
  unfold award
  rw [if_neg (Nat.not_le_of_lt part)]
  split
  · rename_i credit
    have bounded : points * percentage ≤ points * 100 :=
      Nat.mul_le_mul_left points (Nat.le_of_lt part)
    have rest : points * (100 - percentage) = points * 100 - points * percentage :=
      Nat.mul_sub points 100 percentage
    rw [roundedRatio_eq (by omega) (by omega) (by omega) (by decide) (by decide), rest]
    omega
  · omega

namespace FuzzyScore

theorem percentage_le (expected actual : List Row) :
    (compare expected actual).percentage ≤ 100 := by
  unfold compare
  split
  · exact Nat.sub_le _ _
  · dsimp only [cellPercentage]
    split
    · exact Nat.le_refl _
    · exact Nat.le_trans (Nat.min_le_right _ _) (by decide)

end FuzzyScore

namespace Grader

/-- Under the fuzzy policy a test that did not pass earns less than its points exactly when it
earns nothing or when more than half a point is missing. -/
theorem fuzzyResult_points_lt_iff (test : QueryTest) (query : String) (actual : List Row)
    (fits : test.points < UInt32.size) :
    let percentage := (FuzzyScore.compare test.expectedOutput actual).percentage
    let result := fuzzyResult test query actual
    (result.passed = false ↔ percentage < 100) ∧
    (percentage < 100 →
      (award test.points percentage < test.points ↔
        0 < test.points ∧
          (percentage < partialCreditThreshold ∨ 50 < test.points * (100 - percentage)))) ∧
    (result.passed = false →
      (result.points < result.maxPoints ↔
        0 < test.points ∧
          (percentage < partialCreditThreshold ∨ 50 < test.points * (100 - percentage)))) := by
  intro percentage result
  have failed : result.passed = false ↔ percentage < 100 := by
    have bounded : percentage ≤ 100 := FuzzyScore.percentage_le test.expectedOutput actual
    have passed : result.passed = decide (percentage = 100) := rfl
    rw [passed, decide_eq_false_iff_not]
    omega
  exact ⟨failed, award_lt_iff fits, fun part => award_lt_iff fits (failed.1 part)⟩

/-- Nine of ten cells are worth ten of eleven points. -/
theorem fuzzyResult_points_lt_eleven :
    let row : Row := List.replicate 9 (.text "a")
    let test : QueryTest := ⟨"letters", "", "SELECT * FROM t", none, [row ++ [.text "b"]], 11⟩
    let result := fuzzyResult test "SELECT * FROM t" [row]
    test.points < UInt32.size ∧ result.passed = false ∧ result.points < result.maxPoints := by
  intro row test result
  have fits : test.points < UInt32.size := by decide
  have failed : result.passed = false := by decide +kernel
  obtain ⟨-, -, points⟩ := fuzzyResult_points_lt_iff test "SELECT * FROM t" [row] fits
  exact ⟨fits, failed, (points failed).2 (by decide +kernel)⟩

/-- Nine of ten cells earn all of five points, and one row of two earns all of two points. -/
theorem not_always_points_lt_of_part :
    ¬ (∀ (expected actual : List Row) (points : Nat), 0 < points →
        (FuzzyScore.compare expected actual).percentage < 100 →
        award points (FuzzyScore.compare expected actual).percentage < points) ∧
    ¬ ∀ (test : QueryTest) (query : String) (actual : List Row), 0 < test.points →
        (fuzzyResult test query actual).passed = false →
        (fuzzyResult test query actual).points < test.points := by
  let nine : Row := List.replicate 9 (.text "a")
  let two : QueryTest := ⟨"rows", "", "SELECT * FROM t", none, [nine, nine], 2⟩
  refine ⟨fun always => ?_, fun always => ?_⟩
  · have cells := always [nine ++ [.text "b"]] [nine] 5 (by decide) (by decide +kernel)
    have all : award 5 (FuzzyScore.compare [nine ++ [.text "b"]] [nine]).percentage = 5 := by
      decide +kernel
    rw [all] at cells
    exact absurd cells (Nat.lt_irrefl 5)
  · have rows := always two "SELECT * FROM t" [nine] (by decide) (by decide +kernel)
    have all : (fuzzyResult two "SELECT * FROM t" [nine]).points = 2 := by decide +kernel
    rw [all] at rows
    exact absurd rows (Nat.lt_irrefl 2)

end Grader

namespace Report

/-- Results whose points fit 32 bits make a report. It is perfect exactly when one point in two
hundred or less is missing; of less than two hundred points none may be missing. -/
theorem tier_eq_perfect_iff {results : List TestResult}
    (bounded : ∀ result ∈ results, result.points ≤ result.maxPoints)
    (fits : results.foldr (fun result total => result.maxPoints + total) 0 < UInt32.size) :
    ∃ report, ofResults? results = some report ∧
      (report.tier = .perfect ↔
        0 < report.maxScore ∧ 200 * (report.maxScore - report.score) ≤ report.maxScore) ∧
      (report.maxScore < 200 → report.tier = .perfect → report.score = report.maxScore) := by
  obtain ⟨report, made⟩ : ∃ report, ofResults? results = some report :=
    ⟨_, ofResults?_of_bounded bounded fits⟩
  have word : UInt32.size = 4294967296 := rfl
  have least : report.score ≤ report.maxScore := by
    rw [(ofResults?_eq_some_iff.1 made).1]
    exact earned_le_atStake bounded
  obtain ⟨-, -, fits⟩ := ofResults?_eq_some_iff.1 made
  have hundred : report.tier = .perfect ↔ 100 ≤ report.percentage := by
    unfold tier Tier.ofPercentage
    split
    · rename_i full
      exact iff_of_true rfl full
    · rename_i part
      refine iff_of_false ?_ part
      split <;> simp
  have perfect : report.tier = .perfect ↔
      0 < report.maxScore ∧ 200 * (report.maxScore - report.score) ≤ report.maxScore := by
    rw [hundred, percentage]
    split
    · omega
    · rename_i some?
      rw [roundedRatio_eq (by decide) (by omega) (by omega) (by omega) (by omega), Nat.le_min,
        Nat.le_div_iff_mul_le (by omega)]
      omega
  refine ⟨report, made, perfect, fun few full => ?_⟩
  have missing := (perfect.1 full).2
  omega

/-- One point of a hundred and ninety-nine is missed. -/
theorem tier_eq_perfect_iff_missed :
    let results : List TestResult :=
      [⟨"tables", true, "", 198, 198, none, none⟩, ⟨"rows", false, "", 0, 1, none, none⟩]
    ∃ report, ofResults? results = some report ∧ report.maxScore = 199 ∧
      report.percentage = 99 ∧ report.tier ≠ .perfect := by
  intro results
  have bounded : ∀ result ∈ results, result.points ≤ result.maxPoints := by decide
  obtain ⟨report, made, perfect, -⟩ := tier_eq_perfect_iff bounded (by decide)
  obtain ⟨rfl, -⟩ := ofResults?_eq_some_iff.1 made
  exact ⟨_, made, rfl, by decide +kernel, fun tier => absurd (perfect.1 tier).2 (by decide)⟩

/-- A run that fails a test of one point among two hundred is reported to have passed them all. -/
theorem not_always_score_of_perfect :
    (¬ ∀ (g : Grader) (problem : Problem) (schema : Schema) (submitted : List String)
        (report : Report), (g.runAll problem schema submitted).1 = .ok report →
        report.tier = .perfect → report.score = report.maxScore) ∧
    (ofResults?
      [⟨"tables", true, "", 199, 199, none, none⟩,
        ⟨"rows", false, "", 0, 1, none, none⟩]).map (·.summary) =
        some "🎉 Perfect! All tests passed! Score: 199/200 (100%)" := by
  let g : Grader := ⟨.start .empty .lenient .row .builtin, .exact⟩
  let schema : Schema := ⟨[⟨"t", [⟨"id", "INT", true, false⟩]⟩]⟩
  let tests : List TestCase := [.schema ⟨"found", "", [⟨"t", ["id"]⟩], 199⟩,
    .schema ⟨"missing", "", [⟨"u", []⟩], 1⟩]
  let problem : Problem := ⟨1, "", .easy, "", [], [], tests⟩
  refine ⟨fun always => ?_, by decide +kernel⟩
  have ran : ((g.runAll problem schema []).1.toOption.map fun report =>
      (report.tier, report.score, report.maxScore)) = some (.perfect, 199, 200) := by
    decide +kernel
  cases result : (g.runAll problem schema []).1 with
  | error e =>
    rw [result] at ran
    cases ran
  | ok report =>
    rw [result] at ran
    simp only [Except.toOption, Option.map_some, Option.some.injEq, Prod.mk.injEq] at ran
    obtain ⟨perfect, score, maxScore⟩ := ran
    have all := always g problem schema [] report result perfect
    omega

end Report

end SqlGrader
