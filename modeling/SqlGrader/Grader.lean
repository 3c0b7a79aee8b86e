import SqlGrader.Problem
import SqlGrader.Report
import SqlGrader.Schema
import SqlGrader.Session
import SqlGrader.Settings
import SqlGrader.Statement.Insertion

/-!
# Grading

A grader has a session of its own, in which it builds the learner's schema and runs the tests
of a problem one after the other. Each step returns its result together with the grader after
it, also when the result is an error.

Source: `load_schema`, `seed`, `grade_query`, `grade_schema` and `run_all`; `SPEC_FULL.md`,
section 4.3.
-/

set_option autoImplicit false

namespace SqlGrader

/-- Why grading, or a part of it, stops. -/
inductive GradeError where
  | emptySchema
  /-- The schema could not be built. -/
  | schema (cause : ExecutionError)
  /-- The rows of a table could not be put in place. -/
  | seedFailure (table : String) (cause : ExecutionError)
  /-- The query could not be answered. -/
  | execution (cause : ExecutionError)
  /-- The points of all tests together take more than 32 bits. -/
  | pointsOverflow
  deriving DecidableEq

namespace GradeError

def message : GradeError → String
  | emptySchema => "Please design your database schema first by adding tables"
  | schema cause => "Failed to create schema: " ++ cause.message
  | seedFailure _ cause => "Failed to seed data: " ++ cause.message
  | execution cause => "Query error: " ++ cause.message
  | pointsOverflow => "attempt to add with overflow"

end GradeError

/-- A session with the policy by which answers are compared. -/
structure Grader where
  session : Session
  policy : ComparePolicy

namespace Grader

def ofSettings (settings : Settings) (regex : Regex.Library) : Grader :=
  ⟨.start settings.labels settings.leniency settings.scope regex, settings.policy⟩

/-- The table for rows that name none when the schema has no tables. -/
def defaultSeedTable : String := "users"

def reset (g : Grader) : Grader :=
  { g with session := g.session.reset }

/-- Builds a schema; the result is the number of statements. -/
def loadSchema (g : Grader) (schema : Schema) : Except GradeError Nat × Grader :=
  let (result, session) := g.session.runScript schema.ddl
  (result.mapError .schema, { g with session })

/-! ## Schema tests -/

/-- What an expected table lacks in a schema: itself, or some of its columns. -/
inductive Lack where
  | table (name : String)
  | columns (names : List String)

/-- What is missing of an expected table. Only the first table of the name counts. -/
def lackOf (actual : List (String × List String)) (expected : ExpectedTable) : Lack :=
  let name := Unicode.toLower expected.name
  match actual.lookup name with
  | none => .table name
  | some columns =>
    .columns (((expected.columns.map Unicode.toLower).filter fun c => !columns.contains c).map
      fun column => name ++ "." ++ column)

/-- The expected tables that are missing, and the columns missing from those that are there. -/
def missing (schema : Schema) (expected : List ExpectedTable) : List String × List String :=
  let lacks := expected.map (lackOf schema.normalizedTables)
  (lacks.filterMap (fun | .table name => some name | .columns _ => none),
    lacks.flatMap (fun | .table _ => [] | .columns names => names))

def schemaMessage (tables columns : List String) : String :=
  if tables = [] ∧ columns = [] then "✅ Schema structure is correct!"
  else
    let tablePart :=
      if tables = [] then [] else ["Missing tables: " ++ String.intercalate ", " tables ++ "."]
    let columnPart :=
      if columns = [] then [] else ["Missing columns: " ++ String.intercalate ", " columns]
    String.intercalate " " (tablePart ++ columnPart)

/-- The result of a schema test: all points if nothing is missing, else none. -/
def gradeSchema (test : SchemaTest) (schema : Schema) : TestResult :=
  let (tables, columns) := missing schema test.expectedTables
  let passed := tables = [] ∧ columns = []
  { name := test.name
    passed := passed
    message := schemaMessage tables columns
    points := if passed then test.points else 0
    maxPoints := test.points
    query? := none
    percentage? := none }

/-! ## Query tests -/

/-- Replaces the rows of tables until one of them fails. -/
def seedTables (g : Grader) : List (String × List Row) → Except GradeError Unit × Grader
  | [] => (.ok (), g)
  | (table, rows) :: rest =>
    match g.session.runEach (deleteStatement table :: rows.map (insertStatement table)) with
    | (.ok (), session) => seedTables { g with session } rest
    | (.error e, session) => (.error (.seedFailure table e), { g with session })

/-- Puts the rows of a test in place. Without a seed, the tables stay as they are. -/
def seed (g : Grader) (test : QueryTest) (defaultTable : String) :
    Except GradeError Unit × Grader :=
  match test.seed? with
  | none => (.ok (), g)
  | some seed => g.seedTables (seed.targets defaultTable)

/-- The rows that a query gives; a text that is no query gives none. -/
def answerRows (g : Grader) (query : String) : Except GradeError (List Row) :=
  match g.session.exec query with
  | .ok (some answer) => .ok answer.rows
  | .ok none => .ok []
  | .error e => .error (.execution e)

/-- The result of a test that failed before its answer could be compared. -/
def failedResult (test : QueryTest) (query : String) (e : GradeError) : TestResult where
  name := test.name
  passed := false
  message := "❌ " ++ e.message
  points := 0
  maxPoints := test.points
  query? := some query
  percentage? := none

def exactResult (test : QueryTest) (query : String) (actual : List Row) : TestResult :=
  let passed := Row.allEqual test.expectedOutput actual
  let expectedCount := test.expectedOutput.length
  let actualCount := actual.length
  { name := test.name
    passed := passed
    message :=
      if passed then "✅ Query executed correctly!"
      else s!"❌ Expected {expectedCount} rows but got {actualCount}"
    points := if passed then test.points else 0
    maxPoints := test.points
    query? := some query
    percentage? := none }

def fuzzyMessage (score : FuzzyScore) : String :=
  let percentage := score.percentage
  let matching := score.matchingCells
  let total := score.totalCells
  let expectedCount := score.expectedRows
  let actualCount := score.actualRows
  if score.rowCountDiffers then
    s!"❌ Expected {expectedCount} rows but got {actualCount} ({percentage}%)"
  else if percentage = 100 then "✅ Query executed correctly! (100%)"
  else if partialCreditThreshold ≤ percentage then
    s!"⚠️ Partially correct: {matching}/{total} cells match ({percentage}%)"
  else s!"❌ Only {matching}/{total} cells match ({percentage}%)"

def fuzzyResult (test : QueryTest) (query : String) (actual : List Row) : TestResult :=
  let score := FuzzyScore.compare test.expectedOutput actual
  { name := test.name
    passed := score.percentage = 100
    message := fuzzyMessage score
    points := award test.points score.percentage
    maxPoints := test.points
    query? := some query
    percentage? := some score.percentage }

def compareResult (policy : ComparePolicy) (test : QueryTest) (query : String)
    (actual : List Row) : TestResult :=
  match policy with
  | .exact => exactResult test query actual
  | .fuzzy => fuzzyResult test query actual

/-- Puts the rows of a test in place and grades a query: the one handed in, or the test's own. -/
def gradeQuery (g : Grader) (test : QueryTest) (defaultTable : String)
    (submitted? : Option String) : TestResult × Grader :=
  let query := submitted?.getD test.query
  match g.seed test defaultTable with
  | (.error e, g) => (failedResult test query e, g)
  | (.ok (), g) =>
    match g.answerRows query with
    | .error e => (failedResult test query e, g)
    | .ok actual => (compareResult g.policy test query actual, g)

/-! ## Whole problems -/

/-- Grades tests in their order. Each query test takes the next of the queries handed in; when
they are used up, it takes its own. -/
def gradeEach (g : Grader) (schema : Schema) (defaultTable : String) :
    List TestCase → List String → List TestResult × Grader
  | [], _ => ([], g)
  | .schema test :: rest, submitted =>
    let (results, g) := g.gradeEach schema defaultTable rest submitted
    (gradeSchema test schema :: results, g)
  | .query test :: rest, submitted =>
    let (result, g) := g.gradeQuery test defaultTable submitted.head?
    let (results, g) := g.gradeEach schema defaultTable rest submitted.tail
    (result :: results, g)

def runAll (g : Grader) (problem : Problem) (schema : Schema) (submitted : List String) :
    Except GradeError Report × Grader :=
  if schema.isEmpty then (.error .emptySchema, g)
  else
    match g.reset.loadSchema schema with
    | (.error e, g) => (.error e, g)
    | (.ok _, g) =>
      let defaultTable := schema.firstTable?.getD defaultSeedTable
      let (results, g) := g.gradeEach schema defaultTable problem.testCases submitted
      match Report.ofResults? results with
      | some report => (.ok report, g)
      | none => (.error .pointsOverflow, g)

end Grader

end SqlGrader
