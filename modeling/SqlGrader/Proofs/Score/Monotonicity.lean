import SqlGrader.Proofs.Binary64.OrderedRatios
import SqlGrader.Proofs.Score.FullMatches

/-!
# More matching cells

More matching cells never cost anything: neither in the percentage of an answer, nor in the points
for it, nor in the score, the percentage and the tier of a report. Only answers with as many rows as
expected are compared by their cells; the others are compared by their numbers of rows. Main
statement: `fuzzy_monotone`.
-/

set_option autoImplicit false

namespace SqlGrader

/-! ## Percentages and points -/

namespace FuzzyScore

/-- Of the same cells, more matching ones make no smaller percentage: a part of them makes 99 at
most, and all of them 100. -/
theorem cellPercentage_mono {fewer more total : Nat} (le : fewer ≤ more) (all : more ≤ total) :
    cellPercentage fewer total ≤ cellPercentage more total := by
  have rounded := roundedRatio_mono 100 total le
  unfold cellPercentage
  repeat' split
  all_goals omega

/-- Answers of the expected length are compared by their matching cells. -/
theorem percentage_mono {expected fewer more : List Row}
    (length : fewer.length = expected.length) (length' : more.length = expected.length)
    (le : (compare expected fewer).matchingCells ≤ (compare expected more).matchingCells) :
    (compare expected fewer).percentage ≤ (compare expected more).percentage := by
  have all := (matching_le_total expected more).1
  simp only [compare, length, length', ne_eq, not_true_eq_false, if_false] at le ⊢
  exact cellPercentage_mono le all

/-- Other answers are compared by the numbers of rows that are missing or too many. -/
theorem percentage_anti {expected closer farther : List Row}
    (different : closer.length ≠ expected.length) (different' : farther.length ≠ expected.length)
    (le : ((closer.length : Int) - expected.length).natAbs ≤
      ((farther.length : Int) - expected.length).natAbs) :
    (compare expected farther).percentage ≤ (compare expected closer).percentage := by
  simp only [compare, rowPenalty, ne_eq, different.symm, different'.symm, not_false_eq_true,
    if_true]
  omega

end FuzzyScore

theorem award_mono (points : Nat) {percentage percentage' : Nat} (le : percentage ≤ percentage') :
    award points percentage ≤ award points percentage' := by
  have rounded := roundedRatio_mono points 100 le
  unfold award
  repeat' split
  all_goals omega

/-! ## Reports -/

/-- The place of a tier among the tiers, the lowest first. -/
def Tier.rank : Tier → Nat
  | retry => 0
  | good => 1
  | perfect => 2

theorem Tier.rank_mono {percentage percentage' : Nat} (le : percentage ≤ percentage') :
    (ofPercentage percentage).rank ≤ (ofPercentage percentage').rank := by
  unfold ofPercentage
  repeat' split
  all_goals first | decide | omega

namespace Report

/-- A result adds to a sum over all results what it has itself. -/
theorem exists_others (before after : List TestResult) (f : TestResult → Nat) :
    ∃ others, ∀ result, (before ++ result :: after).foldr (fun r total => f r + total) 0 =
      f result + others := by
  induction before with
  | nil => exact ⟨_, fun _ => rfl⟩
  | cons first rest ih =>
    obtain ⟨others, sum⟩ := ih
    refine ⟨f first + others, fun result => ?_⟩
    rw [List.cons_append, List.foldr_cons, sum]
    exact Nat.add_left_comm _ _ _

/-- A result with as many points at stake and no fewer of them earned lowers nothing. -/
theorem replaced_le (before after : List TestResult) {low high : TestResult}
    {report better : Report} (made : ofResults? (before ++ low :: after) = some report)
    (made' : ofResults? (before ++ high :: after) = some better)
    (points : low.points ≤ high.points) (maxPoints : low.maxPoints = high.maxPoints) :
    report.score ≤ better.score ∧ report.percentage ≤ better.percentage ∧
      report.tier.rank ≤ better.tier.rank := by
  obtain ⟨report_eq, -⟩ := ofResults?_eq_some_iff.1 made
  obtain ⟨better_eq, -⟩ := ofResults?_eq_some_iff.1 made'
  have score : report.score ≤ better.score := by
    obtain ⟨others, sum⟩ := exists_others before after (·.points)
    rw [report_eq, better_eq, sum, sum]
    exact Nat.add_le_add_right points _
  have stake : report.maxScore = better.maxScore := by
    obtain ⟨others, sum⟩ := exists_others before after (·.maxPoints)
    rw [report_eq, better_eq, sum, sum, maxPoints]
  have percentage : report.percentage ≤ better.percentage := by
    unfold Report.percentage
    rw [← stake]
    split
    · exact Nat.le_refl 0
    · exact roundedRatio_mono 100 report.maxScore score
  exact ⟨score, percentage, Tier.rank_mono percentage⟩

/-- A result that gives no more than what is at stake can be put in the place of one with as many
points at stake, if the other results give no more either. -/
theorem exists_replaced {before after : List TestResult} {low high : TestResult}
    {report : Report} (made : ofResults? (before ++ low :: after) = some report)
    (others : ∀ result ∈ before ++ after, result.points ≤ result.maxPoints)
    (points : high.points ≤ high.maxPoints) (maxPoints : low.maxPoints = high.maxPoints) :
    ∃ better, ofResults? (before ++ high :: after) = some better := by
  refine ⟨_, ofResults?_of_bounded ?_ ?_⟩
  · intro result member
    rcases List.mem_append.1 member with member | member
    · exact others result (List.mem_append_left _ member)
    · rcases List.mem_cons.1 member with rfl | member
      · exact points
      · exact others result (List.mem_append_right _ member)
  · obtain ⟨report_eq, -, fits⟩ := ofResults?_eq_some_iff.1 made
    obtain ⟨sumOthers, sum⟩ := exists_others before after (·.maxPoints)
    rw [report_eq, sum, maxPoints, ← sum] at fits
    exact fits

end Report

namespace Grader

/-- Of two answers with as many rows as expected, the one with at least as many matching cells has
no smaller percentage and earns no fewer points, whatever is at stake; in its place in any report it
lowers neither the score nor the percentage nor the tier, and its report is there, too, if no other
result gives more than is at stake. Of two answers with other numbers of rows,
the one with the larger difference has no larger percentage. -/
theorem fuzzy_monotone (test : QueryTest) (query query' : String) (actual actual' : List Row) :
    let expected := test.expectedOutput
    let score := FuzzyScore.compare expected actual
    let score' := FuzzyScore.compare expected actual'
    (actual.length = expected.length → actual'.length = expected.length →
      score.matchingCells ≤ score'.matchingCells →
        score.percentage ≤ score'.percentage ∧
        (∀ points, award points score.percentage ≤ award points score'.percentage) ∧
        ∀ (before after : List TestResult) (report : Report),
          Report.ofResults? (before ++ fuzzyResult test query actual :: after) = some report →
          (∀ report',
            Report.ofResults? (before ++ fuzzyResult test query' actual' :: after) = some report' →
            report.score ≤ report'.score ∧ report.percentage ≤ report'.percentage ∧
              report.tier.rank ≤ report'.tier.rank) ∧
          ((∀ result ∈ before ++ after, result.points ≤ result.maxPoints) →
            ∃ report', Report.ofResults? (before ++ fuzzyResult test query' actual' :: after) =
              some report')) ∧
    (actual.length ≠ expected.length → actual'.length ≠ expected.length →
      ((actual.length : Int) - expected.length).natAbs ≤
        ((actual'.length : Int) - expected.length).natAbs →
      score'.percentage ≤ score.percentage) := by
  intro expected score score'
  refine ⟨fun length length' matching => ?_, fun different different' le => ?_⟩
  · have percentage : score.percentage ≤ score'.percentage :=
      FuzzyScore.percentage_mono length length' matching
    refine ⟨percentage, fun points => award_mono points percentage,
      fun before after report made => ⟨fun report' made' => ?_, fun others => ?_⟩⟩
    · exact Report.replaced_le before after made made' (award_mono test.points percentage) rfl
    · exact Report.exists_replaced made others (award_le test.points _) rfl
  · exact FuzzyScore.percentage_anti different different' le

/-- One cell more out of four makes a report good; six rows are no closer to two than none. -/
theorem fuzzy_monotone_users :
    let test : QueryTest := ⟨"users", "", "SELECT * FROM users", none,
      [[.integer 1, .text "Ann"], [.integer 2, .text "Bob"]], 20⟩
    let score := FuzzyScore.compare test.expectedOutput
    let fewer : List Row := [[.integer 1, .text "x"], [.integer 2, .null]]
    let more : List Row := [[.integer 2, .null], [.text "1", .text "ann"]]
    let tables : TestResult := ⟨"tables", true, "", 10, 10, none, none⟩
    let report? := fun query actual => Report.ofResults? [tables, fuzzyResult test query actual]
    (fewer.length = 2 ∧ more.length = 2 ∧
      (score fewer).matchingCells ≤ (score more).matchingCells) ∧
    (∃ report report', report? "SELECT 1" fewer = some report ∧
      report? "SELECT 2" more = some report' ∧
      (report.score ≤ report'.score ∧ report.percentage ≤ report'.percentage ∧
        report.tier.rank ≤ report'.tier.rank) ∧
      report.tier = .retry ∧ report'.tier = .good) ∧
    (score (fewer ++ more ++ fewer)).percentage ≤ (score []).percentage := by
  intro test score fewer more tables report?
  have matching : (score fewer).matchingCells ≤ (score more).matchingCells := by decide +kernel
  obtain ⟨cells, -⟩ := fuzzy_monotone test "SELECT 1" "SELECT 2" fewer more
  obtain ⟨-, -, reports⟩ := cells rfl rfl matching
  obtain ⟨-, rows⟩ := fuzzy_monotone test "" "" [] (fewer ++ more ++ fewer)
  have retry : (report? "SELECT 1" fewer).map (·.tier) = some .retry := by decide +kernel
  have good : (report? "SELECT 2" more).map (·.tier) = some .good := by decide +kernel
  obtain ⟨report, made, tier⟩ := Option.map_eq_some_iff.1 retry
  obtain ⟨report', made', tier'⟩ := Option.map_eq_some_iff.1 good
  obtain ⟨lowers, -⟩ := reports [tables] [] report made
  exact ⟨⟨rfl, rfl, matching⟩, ⟨report, report', made, made', lowers report' made', tier, tier'⟩,
    rows (by decide) (by decide) (by decide)⟩

end Grader

end SqlGrader
