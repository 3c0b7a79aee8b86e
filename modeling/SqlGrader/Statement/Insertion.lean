import SqlGrader.Cell

/-!
# Rows as statements

The statement that inserts a row into a table. Texts stand between quotes, with every quote in
them doubled.

Source: `insert_statement`; `SPEC_FULL.md`, section 4.3.
-/

set_option autoImplicit false

namespace SqlGrader

def Cell.literalText : Cell → String
  | .text s =>
    "'" ++ String.ofList (s.toList.flatMap fun c => if c = '\'' then ['\'', '\''] else [c]) ++ "'"
  | cell => cell.display

def insertStatement (table : String) (row : Row) : String :=
  "INSERT INTO " ++ table ++ " VALUES ("
    ++ String.intercalate ", " (row.map Cell.literalText) ++ ")"

/-- The statement that removes all rows of a table. -/
def deleteStatement (table : String) : String :=
  "DELETE FROM " ++ table

end SqlGrader
