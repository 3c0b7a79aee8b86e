import SqlGrader.Cell

/-!
# Statements

The statements of the dialect as read. What a statement says beyond the dialect is kept as
text: select items, conditions and trailing clauses that are not recognised.

Source: the statements of `SPEC_FULL.md`, sections 4.1 and 4.2.
-/

set_option autoImplicit false

namespace SqlGrader

/-- One entry of a list of values, as written. -/
inductive Literal where
  | quoted (text : String)
  | integer (value : Int64)
  | float (value : Binary64)
  /-- A word without quotes, such as `NULL` or `abc`. -/
  | bare (word : String)
  deriving DecidableEq

namespace Literal

/-- The cell that a literal is stored as. A bare word that spells an integer or a finite number
is stored as that, any other as text. -/
def toCell : Literal → Cell
  | quoted s => .text s
  | integer i => .integer i
  | float x => .float x
  | bare word =>
    match Text.readInt64? word.toList with
    | some i => .integer i
    | none =>
      match Binary64.read? word.toList with
      | some x => if x.isFinite then .float x else .text word
      | none => .text word

end Literal

/-- A column, perhaps with the name of its table. -/
structure ColumnRef where
  table? : Option String
  column : String
  deriving DecidableEq

/-- One item of a select list. -/
inductive SelectItem where
  | allColumns
  | countAll
  | column (ref : ColumnRef)
  /-- Any other item, as written. -/
  | expression (text : String)
  deriving DecidableEq

inductive Predicate where
  | like (column : ColumnRef) (pattern : String)
  | textEquals (column : ColumnRef) (value : String)
  | numberEquals (column : ColumnRef) (value : Binary64)
  | greaterThan (column : ColumnRef) (threshold : Binary64)
  /-- Any other condition, as written. -/
  | unsupported (clause : String)
  deriving DecidableEq

def Predicate.column? : Predicate → Option ColumnRef
  | like column _ | textEquals column _ | numberEquals column _ | greaterThan column _ =>
    some column
  | unsupported _ => none

structure Select where
  items : List SelectItem
  table? : Option String := none
  condition? : Option Predicate := none
  groupBy? : Option ColumnRef := none
  /-- The clauses after the last one that is recognised, as written. -/
  trailing? : Option String := none
  deriving DecidableEq

namespace Select

def hasCount (query : Select) : Bool :=
  query.items.contains .countAll

/-- The parts of the text that have no effect on the answer: items that are not recognised,
then trailing clauses. -/
def ignoredClauses (query : Select) : List String :=
  query.items.filterMap (fun | .expression text => some text | _ => none)
    ++ query.trailing?.toList

end Select

inductive Statement where
  | createTable (name : String)
  | dropTable (name : String) (ifExists : Bool)
  | delete (table : String)
  | insert (table : String) (rows : List (List Literal))
  | select (query : Select)
  deriving DecidableEq

end SqlGrader
