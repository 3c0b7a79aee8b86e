import SqlGrader.Score

/-!
# Problems

An exercise: what the learner reads, and the tests by which an answer is graded.

Source: `targets`, `total_points` and `query_tests`; `SPEC_FULL.md`, section 3.
-/

set_option autoImplicit false

namespace SqlGrader

inductive Difficulty where
  | easy
  | medium
  | hard
  deriving DecidableEq

def Difficulty.name : Difficulty → String
  | easy => "Easy"
  | medium => "Medium"
  | hard => "Hard"

/-- A table that a schema should have, with some of its columns. -/
structure ExpectedTable where
  name : String
  columns : List String
  deriving DecidableEq

structure SchemaTest where
  name : String
  description : String
  expectedTables : List ExpectedTable
  points : Nat
  deriving DecidableEq

/-- The rows that a test starts from. -/
inductive Seed where
  /-- Rows for the table that the schema names first. -/
  | rows (rows : List Row)
  /-- Rows for named tables, in order; a table may come more than once. -/
  | tables (tables : List (String × List Row))
  deriving DecidableEq

/-- The rows of a seed with the names of their tables. -/
def Seed.targets (defaultTable : String) : Seed → List (String × List Row)
  | .rows list => [(defaultTable, list)]
  | .tables entries => entries

structure QueryTest where
  name : String
  description : String
  query : String
  seed? : Option Seed
  expectedOutput : List Row
  points : Nat
  deriving DecidableEq

inductive TestCase where
  | schema (test : SchemaTest)
  | query (test : QueryTest)
  deriving DecidableEq

namespace TestCase

def name : TestCase → String
  | schema test => test.name
  | query test => test.name

def points : TestCase → Nat
  | schema test => test.points
  | query test => test.points

end TestCase

structure Problem where
  id : Nat
  title : String
  difficulty : Difficulty
  description : String
  requirements : List String
  hints : List String
  testCases : List TestCase
  deriving DecidableEq

namespace Problem

/-- The points of all tests together, unless they take more than 32 bits. -/
def totalPoints? (problem : Problem) : Option Nat :=
  sumPoints? (problem.testCases.map (·.points))

def queryTests (problem : Problem) : List QueryTest :=
  problem.testCases.filterMap fun
    | .query test => some test
    | .schema _ => none

end Problem

end SqlGrader
