import SqlGrader.Plan.Evaluation

/-!
# Answers as tables of text

The labels, a rule, and one line for each row, with every column as wide as its widest cell.
Rows may be longer than the list of labels; the columns beyond it have empty labels.

Source: `print_table`.
-/

set_option autoImplicit false

namespace SqlGrader.ResultSet

/-- A text with blanks behind it up to a width in characters. -/
def padded (width : Nat) (text : String) : String :=
  text ++ String.ofList (List.replicate (width - text.length) ' ')

/-- The labels and the rows as texts, each filled up to the same number of cells. -/
def grid (result : ResultSet) : List String × List (List String) :=
  let width := (result.rows.map List.length).foldl max result.columns.length
  let filled (cells : List String) := cells ++ List.replicate (width - cells.length) ""
  (filled result.columns, result.rows.map fun row => filled (row.map Cell.display))

def columnWidths (labels : List String) (rows : List (List String)) : List Nat :=
  rows.foldl (fun widths row => List.zipWith max widths (row.map String.length))
    (labels.map String.length)

def gridLine (widths : List Nat) (cells : List String) : String :=
  String.intercalate " | " (List.zipWith padded widths cells) ++ "\n"

def textTable (result : ResultSet) : String :=
  match result.rows with
  | [] => "(0 rows)\n"
  | _ :: _ =>
    let (labels, rows) := result.grid
    let widths := columnWidths labels rows
    let rule := widths.map fun width => String.ofList (List.replicate width '-')
    let count := result.rows.length
    gridLine widths labels ++ String.intercalate "-+-" rule ++ "\n"
      ++ String.join (rows.map (gridLine widths)) ++ s!"({count} rows)\n"

end SqlGrader.ResultSet
