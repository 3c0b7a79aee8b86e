import SqlGrader.Plan.RowFilter

/-!
# Answers to queries

A plan is evaluated over the rows of a store; the catalogue gives the labels.

Source: `evaluate` and `group_count`; `SPEC_FULL.md`, section 4.2.
-/

set_option autoImplicit false

namespace SqlGrader

/-- The answer to a query. Rows need not be as long as the list of labels. -/
structure ResultSet where
  columns : List String
  rows : List Row
  deriving DecidableEq

structure Database where
  store : Store
  catalog : Catalog
  scope : MatchScope
  regex : Regex.Library

namespace Database

def countLabel : String := "COUNT(*)"

def countCell (n : Nat) : Cell :=
  .integer (Int64.ofNat n)

def selectedRows (db : Database) : Plan → Except ExecutionError (List Row)
  | .scan table => .ok (db.store.rows table)
  | .filter input predicate =>
    match db.selectedRows input with
    | .error e => .error e
    | .ok rows =>
      let table := input.table?.getD ""
      match RowFilter.ofPredicate db.regex db.scope db.catalog table predicate with
      | .error e => .error e
      | .ok filter => .ok (rows.filter filter.passes)
  | .count input => db.selectedRows input
  | .groupCount input _ => db.selectedRows input
  | .empty => .ok []

/-- Counts a value in the first group that has an equal one, or in a new last group. -/
def addToGroups : List (Cell × Nat) → Cell → List (Cell × Nat)
  | [], value => [(value, 1)]
  | (key, n) :: groups, value =>
    if key.equals value then (key, n + 1) :: groups else (key, n) :: addToGroups groups value

/-- The distinct values in the order in which they first appear, each with its count. -/
def groups (values : List Cell) : List (Cell × Nat) :=
  values.foldl addToGroups []

/-- The cell of a row in a column; null if the column is unknown or the row too short. -/
def groupKey (index? : Option Nat) (row : Row) : Cell :=
  (index?.bind fun index => row[index]?).getD .null

def groupCounts (db : Database) (table : String) (column : ColumnRef) (rows : List Row) :
    ResultSet :=
  let index? := db.catalog.columnIndex? table column.column
  ⟨[Unicode.toLower column.column, countLabel],
    (groups (rows.map (groupKey index?))).map fun (key, n) => [key, countCell n]⟩

def evaluate (db : Database) (plan : Plan) : Except ExecutionError ResultSet :=
  let table := plan.table?.getD ""
  match plan with
  | .empty => .ok ⟨[], []⟩
  | .count input =>
    (db.selectedRows input).map fun rows => ⟨[countLabel], [[countCell rows.length]]⟩
  | .groupCount input column =>
    (db.selectedRows input).map fun rows => db.groupCounts table column rows
  | .scan _ | .filter _ _ =>
    (db.selectedRows plan).map fun rows => ⟨db.catalog.columns table, rows⟩

end Database

end SqlGrader
