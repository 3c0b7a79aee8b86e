import SqlGrader.Cell.Json
import SqlGrader.Problem
import SqlGrader.Schema.Json

/-!
# Problems in JSON

A test case names its kind in the member `type`, or first in an array; a seed is an array of
rows, or an object of tables.

Source: the field names of `SPEC_FULL.md`, section 3.
-/

set_option autoImplicit false

namespace SqlGrader

open Json (Value)

namespace Difficulty

def ofJson? (v : Value) : Option Difficulty :=
  match v.asName? with
  | some "Easy" => some easy
  | some "Medium" => some medium
  | some "Hard" => some hard
  | _ => none

end Difficulty

namespace ExpectedTable

def ofJson? (v : Value) : Option ExpectedTable :=
  match v.fields? ["name", "columns"] with
  | some [name, columns] => do
    let name ← Value.required Value.asText? name
    let columns ← Value.required (Value.asList? Value.asText?) columns
    return ⟨name, columns⟩
  | _ => none

def toJson (table : ExpectedTable) : Value :=
  .record [("name", .text table.name), ("columns", .array (table.columns.map Value.text))]

end ExpectedTable

namespace SchemaTest

def ofJson? (v : Value) : Option SchemaTest :=
  match v.fields? ["name", "description", "expectedTables", "points"] with
  | some [name, description, expectedTables, points] => do
    let name ← Value.required Value.asText? name
    let description ← Value.optional "" Value.asText? description
    let expectedTables ← Value.required (Value.asList? ExpectedTable.ofJson?) expectedTables
    let points ← Value.required Value.asWord? points
    return ⟨name, description, expectedTables, points⟩
  | _ => none

/-- The members of a schema test, with its kind first. -/
def toJson (test : SchemaTest) : Value :=
  .record
    [("type", .text "schema"), ("name", .text test.name),
     ("description", .text test.description),
     ("expectedTables", .array (test.expectedTables.map ExpectedTable.toJson)),
     ("points", .ofNat test.points)]

end SchemaTest

namespace Seed

def tableOfJson? : Option String × Value → Option (String × List Row)
  | (key?, v) => do
    let key ← key?
    let rows ← Row.listOfJson? v
    return (key, rows)

/-- A seed; null stands for none. -/
def ofJson? : Value → Option (Option Seed)
  | .null => some none
  | .object members => (members.mapM tableOfJson?).map fun entries => some (tables entries)
  | v => (Row.listOfJson? v).map fun list => some (rows list)

def toJson : Seed → Value
  | rows list => Row.listToJson list
  | tables entries => .record (entries.map fun (name, list) => (name, Row.listToJson list))

end Seed

namespace QueryTest

def ofJson? (v : Value) : Option QueryTest :=
  match v.fields? ["name", "description", "query", "seedData", "expectedOutput", "points"] with
  | some [name, description, query, seed, expectedOutput, points] => do
    let name ← Value.required Value.asText? name
    let description ← Value.optional "" Value.asText? description
    let query ← Value.required Value.asText? query
    let seed? ← Value.optional none Seed.ofJson? seed
    let expectedOutput ← Value.required Row.listOfJson? expectedOutput
    let points ← Value.required Value.asWord? points
    return ⟨name, description, query, seed?, expectedOutput, points⟩
  | _ => none

/-- The members of a query test, with its kind first. A missing seed has no member. -/
def toJson (test : QueryTest) : Value :=
  .record
    ([("type", .text "query"), ("name", .text test.name),
      ("description", .text test.description), ("query", .text test.query)]
      ++ (test.seed?.map fun seed => ("seedData", seed.toJson)).toList
      ++ [("expectedOutput", Row.listToJson test.expectedOutput), ("points", .ofNat test.points)])

end QueryTest

namespace TestCase

/-- How deep a test case may be nested, being itself the third level of a problem of which 127
levels are read. -/
def depthLimit : Nat := 125

/-- The kind of a test case, and what is left of it as a record without that member. -/
def untagged? : Value → Option (Value × Value)
  | .array (tag :: fields) => some (tag, .array fields)
  | .object members =>
    match members.filter (·.1 = some "type") with
    | [(_, tag)] => some (tag, .object (members.filter (·.1 ≠ some "type")))
    | _ => none
  | _ => none

/-- A test case. Its unknown members have to be readable as well, since its kind may come last. -/
def ofJson? (v : Value) : Option TestCase :=
  if v.isReadable depthLimit then
    match untagged? v with
    | some (.string (some "schema"), fields) => (SchemaTest.ofJson? fields).map schema
    | some (.string (some "query"), fields) => (QueryTest.ofJson? fields).map query
    | _ => none
  else none

def toJson : TestCase → Value
  | schema test => test.toJson
  | query test => test.toJson

end TestCase

namespace Problem

def ofJson? (v : Value) : Option Problem :=
  match v.fields?
    ["id", "title", "difficulty", "description", "requirements", "hints", "testCases"] with
  | some [id, title, difficulty, description, requirements, hints, testCases] => do
    let id ← Value.required Value.asWord? id
    let title ← Value.required Value.asText? title
    let difficulty ← Value.required Difficulty.ofJson? difficulty
    let description ← Value.optional "" Value.asText? description
    let requirements ← Value.optional [] (Value.asList? Value.asText?) requirements
    let hints ← Value.optional [] (Value.asList? Value.asText?) hints
    let testCases ← Value.required (Value.asList? TestCase.ofJson?) testCases
    return ⟨id, title, difficulty, description, requirements, hints, testCases⟩
  | _ => none

def toJson (problem : Problem) : Value :=
  .record
    [("id", .ofNat problem.id), ("title", .text problem.title),
     ("difficulty", .text problem.difficulty.name), ("description", .text problem.description),
     ("requirements", .array (problem.requirements.map Value.text)),
     ("hints", .array (problem.hints.map Value.text)),
     ("testCases", .array (problem.testCases.map TestCase.toJson))]

def parse (text : String) : Except DefinitionError Problem :=
  match (Json.parse? text).bind ofJson? with
  | none => .error .json
  | some problem => .ok problem

end Problem

end SqlGrader
