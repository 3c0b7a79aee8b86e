import SqlGrader.Execution

/-!
# Query plans

What a query asks for, as a tree over one table.

Source: `plan` and `plan_filter`; `SPEC_FULL.md`, section 4.2.
-/

set_option autoImplicit false

namespace SqlGrader

/-- How the answer to a query is made. -/
inductive Plan where
  /-- All rows of a table. -/
  | scan (table : String)
  /-- The rows that meet a condition. -/
  | filter (input : Plan) (predicate : Predicate)
  /-- The number of rows. -/
  | count (input : Plan)
  /-- The number of rows for each value of a column. -/
  | groupCount (input : Plan) (column : ColumnRef)
  /-- Nothing: a query without a table. -/
  | empty
  deriving DecidableEq

namespace Plan

def table? : Plan → Option String
  | scan table => some table
  | filter input _ | count input | groupCount input _ => input.table?
  | empty => none

/-- The plan with a condition put on its rows. What is no recognised condition is an error or,
leniently, no condition. -/
def restrict (leniency : Leniency) (plan : Plan) : Predicate → Except ExecutionError Plan
  | .unsupported clause =>
    match leniency with
    | .strict => .error (.unsupportedPredicate clause)
    | .lenient => .ok plan
  | predicate => .ok (.filter plan predicate)

/-- The plan of what is selected from rows. Without `COUNT(*)` that is always whole rows. -/
def project (query : Select) (plan : Plan) : Plan :=
  match query.hasCount, query.groupBy? with
  | true, some column => .groupCount plan column
  | true, none => .count plan
  | false, _ => plan

/-- The plan of a query. The first clause without effect is an error when reading strictly. -/
def ofSelect (leniency : Leniency) (query : Select) : Except ExecutionError Plan :=
  match leniency, query.ignoredClauses with
  | .strict, clause :: _ => .error (.unsupportedClause clause)
  | _, _ =>
    match query.table? with
    | none => .ok .empty
    | some table =>
      let rows := Plan.scan (Store.key table)
      match query.condition? with
      | none => .ok (project query rows)
      | some predicate => (restrict leniency rows predicate).map (project query)

end Plan

end SqlGrader
