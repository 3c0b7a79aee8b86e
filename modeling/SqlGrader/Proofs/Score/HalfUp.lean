import Mathlib.Algebra.Order.Round
import Mathlib.Data.Rat.Floor
import SqlGrader.Proofs.Binary64.RoundedRatios
import SqlGrader.Report

/-!
# Scores rounded half up

Points and percentages are computed as a product and a quotient, each rounded to a number, and then
rounded to an integer. Over their whole ranges the outcome is that of the exact ratio rounded once,
a half always up. Main statement: `scores_rounded_half_up`.
-/

set_option autoImplicit false

namespace SqlGrader

/-! ## Ratios -/

/-- To round a ratio half up is to divide integers. -/
theorem round_ratio (num : Nat) {den : Nat} (positive : 0 < den) :
    round ((num : ℚ) / den) = ((2 * num + den) / (2 * den) : Nat) := by
  have nonzero : (den : ℚ) ≠ 0 := Nat.cast_ne_zero.2 (Nat.ne_of_gt positive)
  have half : (num : ℚ) / den + 1 / 2 = ((2 * num + den : Nat) : ℚ) / (2 * den : Nat) := by
    push_cast
    field_simp
  rw [round_eq, half, Rat.floor_natCast_div_natCast, Int.natCast_div]

/-- A ratio that does not exceed an integer is not rounded up beyond it. -/
theorem halfUp_le {num den bound : Nat} (positive : 0 < den) (le : num ≤ bound * den) :
    (2 * num + den) / (2 * den) ≤ bound := by
  have next : (bound + 1) * (2 * den) = 2 * (bound * den) + 2 * den := by ring
  have below : (2 * num + den) / (2 * den) < bound + 1 := by
    rw [Nat.div_lt_iff_lt_mul (by omega), next]
    omega
  exact Nat.le_of_lt_succ below

/-- A ratio below `2 ^ 32` is rounded half up, whatever is rounded on the way. -/
theorem roundedRatio_eq_halfUp {a b c bound : Nat} (le : a * b ≤ bound * c)
    (word : bound < UInt32.size) (smallA : a < 2 ^ 53) (smallB : b < 2 ^ 53)
    (product : a * b < 2 ^ 52) (positive : 0 < c) (smallC : c < 2 ^ 53) :
    roundedRatio a b c = (2 * (a * b) + c) / (2 * c) ∧ roundedRatio a b c ≤ bound := by
  have bounded := halfUp_le positive le
  rw [roundedRatio_eq smallA smallB product positive smallC, Nat.min_eq_left (by omega)]
  exact ⟨rfl, bounded⟩

/-! ## Scores -/

theorem award_eq_halfUp {points percentage : Nat} (fits : points < UInt32.size)
    (credit : 70 ≤ percentage) (part : percentage < 100) :
    award points percentage = (2 * (points * percentage) + 100) / (2 * 100) := by
  have word : UInt32.size = 4294967296 := rfl
  have bounded : points * percentage ≤ points * 100 :=
    Nat.mul_le_mul_left points (Nat.le_of_lt part)
  obtain ⟨rounded, le⟩ := roundedRatio_eq_halfUp bounded fits (by omega) (by omega) (by omega)
    (by decide) (by decide)
  have threshold : partialCreditThreshold ≤ percentage := credit
  rw [award, if_neg (Nat.not_le_of_lt part), if_pos threshold, Nat.min_eq_left le, rounded]

theorem Report.percentage_eq_halfUp {report : Report} (least : report.score ≤ report.maxScore)
    (positive : 0 < report.maxScore) (fits : report.maxScore < UInt32.size) :
    report.percentage = (2 * (100 * report.score) + report.maxScore) / (2 * report.maxScore) := by
  have word : UInt32.size = 4294967296 := rfl
  have bounded : 100 * report.score ≤ 100 * report.maxScore := Nat.mul_le_mul_left 100 least
  obtain ⟨rounded, -⟩ := roundedRatio_eq_halfUp bounded (by decide) (by decide) (by omega)
    (by omega) positive (by omega)
  rw [Report.percentage, if_neg (Nat.ne_of_gt positive), rounded]

theorem FuzzyScore.cellPercentage_eq_halfUp {matching total : Nat} (part : matching < total)
    (small : total < 2 ^ 45) :
    cellPercentage matching total = min 99 ((2 * (100 * matching) + total) / (2 * total)) := by
  have bounded : 100 * matching ≤ 100 * total := Nat.mul_le_mul_left 100 (Nat.le_of_lt part)
  obtain ⟨rounded, -⟩ := roundedRatio_eq_halfUp bounded (by decide) (by decide) (by omega)
    (by omega) (by omega) (by omega)
  rw [cellPercentage, if_neg (by omega), rounded, Nat.min_comm]

/-- Part of the points of a test, the percentage of a report and the percentage of cells are the
exact ratios rounded half up: for all points and scores of 32 bits, and for all numbers of cells
below `2 ^ 45`. Only a percentage of cells is held below 100. -/
theorem scores_rounded_half_up :
    (∀ points percentage, points < UInt32.size → 70 ≤ percentage → percentage < 100 →
      award points percentage = (2 * points * percentage + 100) / 200 ∧
      (award points percentage : ℤ) = round ((points * percentage : ℚ) / 100)) ∧
    (∀ report : Report, report.score ≤ report.maxScore → 0 < report.maxScore →
      report.maxScore < UInt32.size →
      report.percentage = (200 * report.score + report.maxScore) / (2 * report.maxScore) ∧
      (report.percentage : ℤ) = round ((100 * report.score : ℚ) / report.maxScore)) ∧
    ∀ matching total, matching < total → total < 2 ^ 45 →
      FuzzyScore.cellPercentage matching total = min 99 ((200 * matching + total) / (2 * total)) ∧
      (FuzzyScore.cellPercentage matching total : ℤ) =
        min 99 (round ((100 * matching : ℚ) / total)) := by
  refine ⟨fun points percentage fits credit part => ?_, fun report least positive fits => ?_,
    fun matching total part small => ?_⟩
  · have hundred : 0 < 100 := by decide
    have exact := round_ratio (points * percentage) hundred
    push_cast at exact
    rw [award_eq_halfUp fits credit part, exact, Nat.mul_assoc]
    exact ⟨rfl, by push_cast; rfl⟩
  · have exact := round_ratio (100 * report.score) positive
    push_cast at exact
    rw [Report.percentage_eq_halfUp least positive fits, exact]
    refine ⟨?_, by push_cast; rfl⟩
    rw [← Nat.mul_assoc]
  · have positive : 0 < total := Nat.zero_lt_of_lt part
    have exact := round_ratio (100 * matching) positive
    push_cast at exact
    rw [FuzzyScore.cellPercentage_eq_halfUp part small, exact]
    refine ⟨?_, by push_cast; rfl⟩
    rw [← Nat.mul_assoc]

/-- A half in each of the three, and the largest award, report and number of cells. -/
theorem scores_rounded_half_up_ties :
    (award 10 75 = 8 ∧ award 4294967295 99 = 4252017622) ∧
    ((⟨[], 1, 200⟩ : Report).percentage = 1 ∧
      (⟨[], 4294967294, 4294967295⟩ : Report).percentage = 100) ∧
    FuzzyScore.cellPercentage 1 200 = 1 ∧
      FuzzyScore.cellPercentage 35184372088830 35184372088831 = 99 := by
  obtain ⟨awards, reports, cells⟩ := scores_rounded_half_up
  refine ⟨⟨?_, ?_⟩, ⟨?_, ?_⟩, ?_, ?_⟩
  · exact (awards 10 75 (by decide) (by decide) (by decide)).1
  · exact (awards 4294967295 99 (by decide) (by decide) (by decide)).1
  · exact (reports ⟨[], 1, 200⟩ (by decide) (by decide) (by decide)).1
  · exact (reports ⟨[], 4294967294, 4294967295⟩ (by decide) (by decide) (by decide)).1
  · exact (cells 1 200 (by decide) (by decide)).1
  · exact (cells 35184372088830 35184372088831 (by decide) (by decide)).1

end SqlGrader
