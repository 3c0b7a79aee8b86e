import SqlGrader.Cell.Json
import SqlGrader.Plan.Evaluation

/-!
# Answers in JSON

Source: the shape of result sets in `SPEC_FULL.md`, section 6.
-/

set_option autoImplicit false

namespace SqlGrader

def ResultSet.toJson (result : ResultSet) : Json.Value :=
  .record
    [("columns", .array (result.columns.map Json.Value.text)),
     ("values", Row.listToJson result.rows)]

end SqlGrader
