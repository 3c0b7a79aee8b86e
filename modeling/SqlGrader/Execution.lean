import SqlGrader.Statement.Parser
import SqlGrader.Store

/-!
# Statements at work

What statements other than queries do to a store. Every step returns its result together with the
store after it, also when the result is an error.

Source: `execute` with `execute_delete`, `execute_insert` and `unknown_table`; `SPEC_FULL.md`,
section 4.1.
-/

set_option autoImplicit false

namespace SqlGrader

/-- What becomes of input that cannot be acted on. -/
inductive Leniency where
  /-- It is passed over. -/
  | lenient
  /-- It is an error. -/
  | strict
  deriving DecidableEq

/-- Why a statement is not carried out. -/
inductive ExecutionError where
  | unknownTable (table : String)
  | malformedLiteral (literal : String)
  | unsupportedPredicate (clause : String)
  | unsupportedClause (clause : String)
  | unsupportedStatement (text : String)
  | parse (cause : ParseError)
  deriving DecidableEq

namespace ExecutionError

def ofParseError : ParseError → ExecutionError
  | .malformedLiteral literal _ => malformedLiteral literal
  | .unknownStatement text => unsupportedStatement text
  | other => parse other

def message : ExecutionError → String
  | unknownTable table => "Table not found: " ++ table
  | malformedLiteral literal => "Malformed literal: " ++ literal
  | unsupportedPredicate clause => "Unsupported predicate: " ++ clause
  | unsupportedClause clause => "Unsupported clause: " ++ clause
  | unsupportedStatement text => "Unsupported statement: " ++ text
  | parse cause => "Parse error: " ++ cause.message

end ExecutionError

namespace Store

/-- What comes of a change of a table that is not there. -/
def missingTable (leniency : Leniency) (table : String) : Except ExecutionError Unit :=
  match leniency with
  | .strict => .error (.unknownTable (key table))
  | .lenient => .ok ()

def changeRows (store : Store) (leniency : Leniency) (table : String)
    (change : List Row → List Row) : Except ExecutionError Unit × Store :=
  if store.contains table then (.ok (), store.modify table change)
  else (missingTable leniency table, store)

/-- Carries out a statement. A query changes nothing, and a strict store refuses it here. -/
def execute (store : Store) (leniency : Leniency) : Statement → Except ExecutionError Unit × Store
  | .createTable name => (.ok (), store.create name)
  | .dropTable name _ => (.ok (), store.drop name)
  | .delete table => store.changeRows leniency table fun _ => []
  | .insert table rows => store.changeRows leniency table (· ++ rows.map (·.map Literal.toCell))
  | .select _ =>
    match leniency with
    | .strict => (.error (.unsupportedStatement "SELECT is read-only; use exec"), store)
    | .lenient => (.ok (), store)

end Store

end SqlGrader
