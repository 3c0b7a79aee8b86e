import SqlGrader.Binary64.Format
import SqlGrader.Unicode.LowerCase
import SqlGrader.Unicode.WhiteSpace

/-!
# Cells

A cell of a table is null, an integer, a number or a text. Integers and numbers are one numeric
domain under `Cell.equals`; texts never equal numbers.

Source: `as_float`, `to_number` and `normalized`; `SPEC_FULL.md`, section 3.
-/

set_option autoImplicit false

namespace SqlGrader

inductive Cell where
  | null
  | integer (value : Int64)
  | float (value : Binary64)
  | text (value : String)
  deriving DecidableEq

/-- A row of cells. Rows of one table may differ in length. -/
abbrev Row := List Cell

def Binary64.ofInt64 (i : Int64) : Binary64 :=
  .ofInt i.toInt

namespace Cell

def number? : Cell → Option Binary64
  | integer i => some (.ofInt64 i)
  | float x => some x
  | null | text _ => none

def isNumeric : Cell → Bool
  | integer _ | float _ => true
  | null | text _ => false

/-- The number that a comparison sees: a text counts as the finite number it spells, and a
blank text as zero. -/
def coercedNumber? : Cell → Option Binary64
  | integer i => some (.ofInt64 i)
  | float x => some x
  | text s =>
    match Unicode.trim s.toList with
    | [] => some (.zero false)
    | cs => (Binary64.read? cs).filter Binary64.isFinite
  | null => none

def display : Cell → String
  | null => "NULL"
  | integer i => String.ofList (Text.integerText i.toInt)
  | float x => String.ofList (NumberFormat.plain.text x)
  | text s => s

/-- The text by which cells are compared loosely: trimmed and in lower case. -/
def normalized (c : Cell) : String :=
  Unicode.toLower (String.ofList (Unicode.trim c.display.toList))

/-- Equality of cells. An integer equals a number when the number nearest to it does. -/
def equals : Cell → Cell → Bool
  | null, null => true
  | integer a, integer b => a == b
  | float x, float y => x.equals y
  | integer a, float y => (Binary64.ofInt64 a).equals y
  | float x, integer b => (Binary64.ofInt64 b).equals x
  | text s, text t => s == t
  | _, _ => false

end Cell

/-- Rows are equal when they are equally long and equal cell by cell. -/
def Row.equals (r s : Row) : Bool :=
  r.isEqv s Cell.equals

def Row.allEqual (rs ss : List Row) : Bool :=
  rs.isEqv ss Row.equals

end SqlGrader
