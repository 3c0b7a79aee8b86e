import SqlGrader.Plan.Evaluation

/-!
# Answers as comma-separated values

One line for the labels and one for each row. A field with a comma, a quote or a line feed in
it stands between quotes, with its quotes doubled.

Source: `csv_field` and `print_csv`.
-/

set_option autoImplicit false

namespace SqlGrader

def csvField (text : String) : String :=
  if text.toList.any fun c => c = ',' || c = '"' || c = '\n' then
    "\"" ++ String.ofList (text.toList.flatMap fun c => if c = '"' then ['"', '"'] else [c]) ++ "\""
  else text

def csvLine (fields : List String) : String :=
  String.intercalate "," (fields.map csvField) ++ "\n"

def ResultSet.csv (result : ResultSet) : String :=
  csvLine result.columns ++ String.join (result.rows.map fun row => csvLine (row.map Cell.display))

end SqlGrader
