import SqlGrader.Plan.Evaluation
import SqlGrader.Session.Script

/-!
# Sessions

A store and a catalogue with the rules by which statements are judged and the library by which
patterns are matched. A step of a session returns its result together with the session after it,
also when the result is an error.

Source: `run`, `run_script`, `exec` and `reset`; `SPEC_FULL.md`, section 6.
-/

set_option autoImplicit false

namespace SqlGrader

structure Session where
  store : Store
  catalog : Catalog
  leniency : Leniency
  scope : MatchScope
  regex : Regex.Library

namespace Session

def start (catalog : Catalog) (leniency : Leniency) (scope : MatchScope) (regex : Regex.Library) :
    Session :=
  ⟨.empty, catalog, leniency, scope, regex⟩

/-- Carries out a text that should be a statement other than a query, before any error is passed
over. -/
def attempt (s : Session) (sql : String) : Except ExecutionError Unit × Store :=
  match Statement.parse sql with
  | .error e => (.error (.ofParseError e), s.store)
  | .ok statement => s.store.execute s.leniency statement

/-- Carries out one statement. A lenient session passes over what it cannot carry out. -/
def run (s : Session) (sql : String) : Except ExecutionError Unit × Session :=
  let (result, store) := s.attempt sql
  match result, s.leniency with
  | .error e, .strict => (.error e, { s with store })
  | _, _ => (.ok (), { s with store })

def runEach (s : Session) : List String → Except ExecutionError Unit × Session
  | [] => (.ok (), s)
  | sql :: rest =>
    match s.run sql with
    | (.ok (), s) => s.runEach rest
    | (.error e, s) => (.error e, s)

/-- Carries out a script until a statement fails; the result is the number of statements. -/
def runScript (s : Session) (script : String) : Except ExecutionError Nat × Session :=
  let statements := Script.split script
  let (result, s) := s.runEach statements
  (result.map fun _ => statements.length, s)

def database (s : Session) : Database :=
  ⟨s.store, s.catalog, s.scope, s.regex⟩

def answer (s : Session) (query : Select) : Except ExecutionError ResultSet :=
  match Plan.ofSelect s.leniency query with
  | .error e => .error e
  | .ok plan => s.database.evaluate plan

/-- The answer to a text that should be a query: none if it is another statement, and none from
a lenient session if it is no statement. -/
def exec (s : Session) (sql : String) : Except ExecutionError (Option ResultSet) :=
  match Statement.parse sql with
  | .ok (.select query) => (s.answer query).map some
  | .ok _ => .ok none
  | .error e =>
    match s.leniency with
    | .strict => .error (.ofParseError e)
    | .lenient => .ok none

def reset (s : Session) : Session :=
  { s with store := .empty }

end Session

end SqlGrader
