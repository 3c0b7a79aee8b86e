import SqlGrader.Cell
import SqlGrader.Json.Fields

/-!
# Cells in JSON

A cell is null, a number or a text. An integer in the range of 64 bits is an integer cell, any
other number a floating-point one.

Source: the untagged values of `SPEC_FULL.md`, section 3.
-/

set_option autoImplicit false

namespace SqlGrader

namespace Cell

def ofNumber : Json.Number → Cell
  | .natural n => if n < UInt64.size / 2 then .integer (Int64.ofNat n) else .float (.ofNat n)
  | .negative i => .integer (Int64.ofInt i)
  | .real x => .float x

def ofJson? : Json.Value → Option Cell
  | .null => some .null
  | .number numeral => (Json.Value.number? numeral).map ofNumber
  | .string text? => text?.map .text
  | _ => none

def toJson : Cell → Json.Value
  | .null => .null
  | .integer i => .ofInt i.toInt
  | .float x => .ofBinary64 x
  | .text s => .text s

end Cell

namespace Row

def ofJson? : Json.Value → Option Row :=
  Json.Value.asList? Cell.ofJson?

def toJson (row : Row) : Json.Value :=
  .array (row.map Cell.toJson)

def listOfJson? : Json.Value → Option (List Row) :=
  Json.Value.asList? ofJson?

def listToJson (rows : List Row) : Json.Value :=
  .array (rows.map toJson)

end Row

end SqlGrader
