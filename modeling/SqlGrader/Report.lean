import SqlGrader.Json.Writer
import SqlGrader.Score

/-!
# Reports

The results of all tests of a problem, with their sum and what it says to the learner.

Source: the report with its `percentage` and `feedback`; `SPEC_FULL.md`, section 4.3.
-/

set_option autoImplicit false

namespace SqlGrader

structure TestResult where
  name : String
  passed : Bool
  message : String
  points : Nat
  maxPoints : Nat
  query? : Option String
  percentage? : Option Nat
  deriving DecidableEq

inductive Tier where
  | perfect
  | good
  | retry
  deriving DecidableEq

def Tier.ofPercentage (percentage : Nat) : Tier :=
  if 100 ≤ percentage then .perfect
  else if partialCreditThreshold ≤ percentage then .good
  else .retry

structure Report where
  results : List TestResult
  score : Nat
  maxScore : Nat
  deriving DecidableEq

namespace Report

/-- The report of results, unless their points take more than 32 bits. -/
def ofResults? (results : List TestResult) : Option Report := do
  let score ← sumPoints? (results.map (·.points))
  let maxScore ← sumPoints? (results.map (·.maxPoints))
  return ⟨results, score, maxScore⟩

theorem ofResults?_eq_some_iff {results : List TestResult} {report : Report} :
    ofResults? results = some report ↔
      report = ⟨results, results.foldr (fun result total => result.points + total) 0,
        results.foldr (fun result total => result.maxPoints + total) 0⟩ ∧
      report.score < UInt32.size ∧ report.maxScore < UInt32.size := by
  simp only [ofResults?, Option.bind_eq_bind, Option.bind_eq_some_iff, sumPoints?_eq_some_iff,
    List.foldr_map, Option.pure_def, Option.some.injEq]
  constructor
  · rintro ⟨score, ⟨rfl, scoreFits⟩, maxScore, ⟨rfl, maxScoreFits⟩, rfl⟩
    exact ⟨rfl, scoreFits, maxScoreFits⟩
  · rintro ⟨rfl, scoreFits, maxScoreFits⟩
    exact ⟨_, ⟨rfl, scoreFits⟩, _, ⟨rfl, maxScoreFits⟩, rfl⟩

variable {results : List TestResult}
  (bounded : ∀ result ∈ results, result.points ≤ result.maxPoints)

include bounded

/-- Results that give no more than what is at stake give no more in sum. -/
theorem earned_le_atStake :
    results.foldr (fun result total => result.points + total) 0 ≤
      results.foldr (fun result total => result.maxPoints + total) 0 := by
  induction results with
  | nil => exact Nat.le_refl 0
  | cons first rest ih =>
    obtain ⟨head, tail⟩ := List.forall_mem_cons.1 bounded
    exact Nat.add_le_add head (ih tail)

/-- Such results make a report if what is at stake fits 32 bits. -/
theorem ofResults?_of_bounded
    (fits : results.foldr (fun result total => result.maxPoints + total) 0 < UInt32.size) :
    ofResults? results =
      some ⟨results, results.foldr (fun result total => result.points + total) 0,
        results.foldr (fun result total => result.maxPoints + total) 0⟩ :=
  ofResults?_eq_some_iff.2 ⟨rfl, Nat.lt_of_le_of_lt (earned_le_atStake bounded) fits, fits⟩

omit bounded

/-- The part of the points that were earned; zero if there are none to earn. -/
def percentage (report : Report) : Nat :=
  if report.maxScore = 0 then 0 else roundedRatio 100 report.score report.maxScore

def tier (report : Report) : Tier :=
  .ofPercentage report.percentage

def passedCount (report : Report) : Nat :=
  report.results.countP (·.passed)

def summary (report : Report) : String :=
  let score := report.score
  let points := report.maxScore
  let percentage := report.percentage
  match report.tier with
  | .perfect => s!"🎉 Perfect! All tests passed! Score: {score}/{points} ({percentage}%)"
  | .good => s!"✅ Good job! Score: {score}/{points} ({percentage}%). Check failed tests below."
  | .retry =>
    s!"❌ Some tests failed. Score: {score}/{points} ({percentage}%). Review feedback and try again."

end Report

/-- A result as JSON. A missing query or percentage has no member. -/
def TestResult.toJson (result : TestResult) : Json.Value :=
  .record
    ([("name", .text result.name), ("passed", .bool result.passed),
      ("message", .text result.message), ("points", .ofNat result.points),
      ("maxPoints", .ofNat result.maxPoints)]
      ++ (result.query?.map fun query => ("query", .text query)).toList
      ++ (result.percentage?.map fun percentage => ("percentage", .ofNat percentage)).toList)

namespace Report

def members (report : Report) : List (String × Json.Value) :=
  [("results", .array (report.results.map TestResult.toJson)),
   ("score", .ofNat report.score), ("maxScore", .ofNat report.maxScore)]

def toJson (report : Report) : Json.Value :=
  .record report.members

end Report

end SqlGrader
