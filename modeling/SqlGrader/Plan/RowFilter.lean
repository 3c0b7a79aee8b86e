import SqlGrader.Catalog
import SqlGrader.Like
import SqlGrader.Plan

/-!
# Row filters

A condition made ready for one table. In row scope a condition looks at the cells of a row by
its kind: texts and patterns are compared with every cell, a number with the first cell, and a
threshold with the last one. In column scope it looks at the cell of its column, if the
catalogue knows the column.

Source: `compile`, `matches_row` and `matches_cell`; `SPEC_FULL.md`, section 4.2.
-/

set_option autoImplicit false

namespace SqlGrader

inductive MatchScope where
  | row
  | column
  deriving DecidableEq

inductive CellTest where
  | like (isMatch : String → Bool)
  | textEquals (value : String)
  | numberEquals (value : Binary64)
  | greaterThan (threshold : Binary64)

namespace CellTest

/-- Whether the number that a cell stands for meets a condition; a cell that stands for none
does not. -/
def number (p : Binary64 → Bool) (cell : Cell) : Bool :=
  cell.coercedNumber?.any p

def holdsOfCell (cell : Cell) : CellTest → Bool
  | like isMatch => isMatch cell.display
  | textEquals value => cell.display == value
  | numberEquals value => number (·.equals value) cell
  | greaterThan threshold => number (·.exceeds threshold) cell

def holdsOfRow (row : Row) : CellTest → Bool
  | like isMatch => row.any fun cell => isMatch cell.display
  | textEquals value => row.any fun cell => cell.display == value
  | numberEquals value => row.head?.any fun cell => cell.number?.any (·.equals value)
  | greaterThan threshold => row.getLast?.any (number (·.exceeds threshold))

end CellTest

/-- A test, and the place of the column that it is meant for, if that is known. -/
structure RowFilter where
  test : CellTest
  column? : Option Nat

namespace RowFilter

/-- The place of the column that a condition names, when columns are looked at. -/
def target? (scope : MatchScope) (catalog : Catalog) (table : String) (predicate : Predicate) :
    Option Nat :=
  match scope with
  | .row => none
  | .column => predicate.column?.bind fun ref => catalog.columnIndex? table ref.column

/-- The filter of a condition on a table. A pattern has to cover the cell only when it is meant
for a known column. -/
def ofPredicate (regex : Regex.Library) (scope : MatchScope) (catalog : Catalog) (table : String)
    (predicate : Predicate) : Except ExecutionError RowFilter :=
  let column? := target? scope catalog table predicate
  match predicate with
  | .like _ pattern =>
    match Like.build regex column?.isSome pattern with
    | .ok isMatch => .ok ⟨.like isMatch, column?⟩
    | .error e => .error e
  | .textEquals _ value => .ok ⟨.textEquals value, column?⟩
  | .numberEquals _ value => .ok ⟨.numberEquals value, column?⟩
  | .greaterThan _ threshold => .ok ⟨.greaterThan threshold, column?⟩
  | .unsupported clause => .error (.unsupportedPredicate clause)

/-- Whether a row passes. A row too short for the column does not. -/
def passes (filter : RowFilter) (row : Row) : Bool :=
  match filter.column? with
  | some index => row[index]?.any fun cell => filter.test.holdsOfCell cell
  | none => filter.test.holdsOfRow row

end RowFilter

end SqlGrader
