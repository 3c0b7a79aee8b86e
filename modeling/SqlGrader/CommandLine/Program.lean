import SqlGrader.CommandLine.Arguments
import SqlGrader.Diagnostic
import SqlGrader.Plan.ResultJson
import SqlGrader.Problem.Builtin
import SqlGrader.Problem.Json
import SqlGrader.Regex.Builtin
import SqlGrader.Rendering.Csv
import SqlGrader.Rendering.Report
import SqlGrader.Rendering.TextTable

/-!
# The program

What the program prints for its arguments, given the files that it may read.

Source: `list_problems`, `grade` and `run_query`; `SPEC_FULL.md`, section 10.4.
-/

set_option autoImplicit false

namespace SqlGrader.CommandLine

inductive Failure where
  | unreadableFile
  | settings (cause : SettingsError)
  | definition (cause : DefinitionError)
  | grade (cause : GradeError)
  | execution (cause : ExecutionError)
  | noSuchProblem (id : Nat)
  | noSuchTest (problem test : Nat)
  deriving DecidableEq

def Failure.diagnostic : Failure → String
  | unreadableFile => "Io"
  | settings cause => cause.diagnostic
  | definition cause => cause.diagnostic
  | grade cause => cause.diagnostic
  | execution cause => cause.diagnostic
  | noSuchProblem id => Text.quoted s!"No built-in problem with id {id}"
  | noSuchTest problem test => Text.quoted s!"Problem {problem} has no query test {test}"

/-- The files that can be read, by name. -/
abbrev Files := String → Option String

/-- A file that has to be there. -/
def readFile (files : Files) (path : String) : Except Failure String :=
  match files path with
  | some text => .ok text
  | none => .error .unreadableFile

def loadSettings (files : Files) : Option String → Except Failure Settings
  | none => .ok .default
  | some path => do
    let text ← readFile files path
    (Settings.parse text).mapError .settings

def loadSchema (files : Files) (path : String) : Except Failure Schema := do
  let text ← readFile files path
  (Schema.parse text).mapError .definition

/-- A built-in problem by its number, or one from a file. -/
def loadProblem (files : Files) (name : String) : Except Failure Problem :=
  match Text.readWord? name.toList with
  | some id =>
    match Problem.builtin? id with
    | some problem => .ok problem
    | none => .error (.noSuchProblem id)
  | none => do
    let text ← readFile files name
    (Problem.parse text).mapError .definition

def jsonText (v : Json.Value) : String :=
  v.renderPretty ++ "\n"

def resultText (format : OutputFormat) (result : ResultSet) : String :=
  match format with
  | .table => result.textTable
  | .csv => result.csv
  | .json => jsonText result.toJson

def problemRow (problem : Problem) : Except Failure Row :=
  match problem.totalPoints? with
  | some points =>
    .ok [.integer (Int64.ofNat problem.id), .text problem.title, .text problem.difficulty.name,
      .integer (Int64.ofNat points)]
  | none => .error (.grade .pointsOverflow)

def problemTable : Except Failure ResultSet := do
  let rows ← Problem.builtin.mapM problemRow
  return ⟨["id", "title", "difficulty", "points"], rows⟩

def reportText (format : OutputFormat) (problem : Nat) (report : Report) : String :=
  match format with
  | .table => report.text
  | .csv => report.table.csv
  | .json => jsonText (report.summaryJson problem)

def grade (files : Files) (settings : Settings) (format : OutputFormat) (schema problem : String)
    (queries : List String) : Except Failure String := do
  let problem ← loadProblem files problem
  let schema ← loadSchema files schema
  let g := Grader.ofSettings settings .builtin
  let report ← (g.runAll problem schema queries).1.mapError .grade
  return reportText format problem.id report

/-- The query test of a problem with a number, counted from one. -/
def queryTest (problem : Problem) (number : Nat) : Except Failure QueryTest :=
  match number with
  | 0 => .error (.noSuchTest problem.id 0)
  | index + 1 =>
    match problem.queryTests[index]? with
    | some test => .ok test
    | none => .error (.noSuchTest problem.id number)

/-- The grader with the rows of a test in place, if a problem is named. -/
def seeded (files : Files) (g : Grader) (schema : Schema) (problem? : Option String)
    (test? : Option Nat) : Except Failure Grader :=
  match problem? with
  | none => .ok g
  | some name => do
    let problem ← loadProblem files name
    let test ← queryTest problem (test?.getD 1)
    let (result, g) := g.seed test (schema.firstTable?.getD Grader.defaultSeedTable)
    let _ ← result.mapError Failure.grade
    return g

/-- Answers one query over the tables of a schema. -/
def answer (files : Files) (settings : Settings) (format : OutputFormat) (schema : String)
    (problem? : Option String) (test? : Option Nat) (sql : String) : Except Failure String := do
  let schema ← loadSchema files schema
  let (result, g) := (Grader.ofSettings settings .builtin).loadSchema schema
  let _ ← result.mapError Failure.grade
  let g ← seeded files g schema problem? test?
  match ← (g.session.exec sql).mapError Failure.execution with
  | some result => return resultText format result
  | none => return "(no result set)\n"

/-- What the program prints for its arguments. -/
def run (files : Files) (arguments : Arguments) : Except Failure String := do
  let settings ← loadSettings files arguments.config?
  match arguments.command with
  | .list =>
    let problems ← problemTable
    return resultText arguments.format problems
  | .ddl schema =>
    let schema ← loadSchema files schema
    return schema.ddl
  | .grade schema problem queries overrides =>
    grade files (settings.override overrides) arguments.format schema problem queries
  | .query schema problem? test? sql overrides =>
    answer files (settings.override overrides) arguments.format schema problem? test? sql

/-- The files that arguments name, or may name. -/
def paths (arguments : Arguments) : List String :=
  arguments.config?.toList ++
    match arguments.command with
    | .list => []
    | .ddl schema => [schema]
    | .grade schema problem _ _ => [schema, problem]
    | .query schema problem? _ _ _ => schema :: problem?.toList

/-- The name and version of the program, or of a part of it. -/
def versionText (subcommand? : Option Subcommand) : String :=
  match subcommand? with
  | none => "schemajudge 0.1.0\n"
  | some subcommand => "schemajudge-" ++ subcommand.name ++ " 0.1.0\n"

def usageText : String :=
  "Usage: schemajudge [-c FILE] [-f table|csv|json] COMMAND\n\n"
    ++ "  list\n"
    ++ "  ddl -s SCHEMA\n"
    ++ "  grade -s SCHEMA [-p PROBLEM] [-q SQL]... [--strict] [--policy exact|fuzzy]"
    ++ " [--scope row|column]\n"
    ++ "  query -s SCHEMA [-p PROBLEM [-t TEST]] [--strict] [--policy exact|fuzzy]"
    ++ " [--scope row|column] SQL\n"

/-- What a run of the program leaves behind. -/
structure Outcome where
  code : Nat
  stdout : String
  stderr : String
  deriving DecidableEq

/-- A call that asks for nothing to be done, or for nothing that can be done. -/
def usageOutcome : UsageError → Outcome
  | .helpRequested => ⟨0, usageText, ""⟩
  | .versionRequested subcommand? => ⟨0, versionText subcommand?, ""⟩
  | _ => ⟨2, "", usageText⟩

def outcome (files : Files) (args : List String) : Outcome :=
  match parse args with
  | .error e => usageOutcome e
  | .ok arguments =>
    match run files arguments with
    | .ok text => ⟨0, text, ""⟩
    | .error (.grade .pointsOverflow) => ⟨101, "", GradeError.pointsOverflow.message ++ "\n"⟩
    | .error failure => ⟨1, "", "Error: " ++ failure.diagnostic ++ "\n"⟩

end SqlGrader.CommandLine
