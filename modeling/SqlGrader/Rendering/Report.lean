import SqlGrader.Plan.Evaluation
import SqlGrader.Report

/-!
# Reports for readers

A report as text for the learner, as an answer with one row for each test, and as JSON with its
summary.

Source: `print_report` and `report_rows`.
-/

set_option autoImplicit false

namespace SqlGrader.Report

/-- A number with blanks before it up to two characters. -/
def ordinal (n : Nat) : String :=
  if n < 10 then " " ++ toString n else toString n

def resultLines (index : Nat) (result : TestResult) : String :=
  let mark := if result.passed then "PASS" else "FAIL"
  let name := result.name
  let points := result.points
  let maxPoints := result.maxPoints
  ordinal (index + 1) ++ s!". [{mark}] {name} ({points}/{maxPoints})\n"
    ++ (match result.query? with
      | some query => "    query: " ++ query ++ "\n"
      | none => "")
    ++ "    " ++ result.message ++ "\n"

def linesFrom (index : Nat) : List TestResult → String
  | [] => ""
  | result :: rest => resultLines index result ++ linesFrom (index + 1) rest

/-- The report as text: the tests one after the other, and the summary. -/
def text (report : Report) : String :=
  linesFrom 0 report.results ++ "\n" ++ report.summary ++ "\n"

def table (report : Report) : ResultSet where
  columns := ["name", "passed", "points", "max_points", "message"]
  rows := report.results.map fun result =>
    [.text result.name, .text (if result.passed then "true" else "false"),
     .integer (Int64.ofNat result.points), .integer (Int64.ofNat result.maxPoints),
     .text result.message]

/-- The report as JSON, with the number of its problem and its summary. -/
def summaryJson (problem : Nat) (report : Report) : Json.Value :=
  .record
    ([("problem", .ofNat problem), ("summary", .text report.summary),
      ("percentage", .ofNat report.percentage)]
      ++ report.members)

end SqlGrader.Report
