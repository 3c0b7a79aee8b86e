import SqlGrader.Unicode.LowerCase

/-!
# Catalogues

The column labels of tables, by which results are titled and columns are found. A catalogue
knows nothing of the rows that are stored. Every table has labels: those entered for it last,
or else the general ones.

Source: `columns` and `column_index` of the catalogue; `SPEC_FULL.md`, section 3.
-/

set_option autoImplicit false

namespace SqlGrader

/-- Column labels by table name, both in lower case, the latest entry first. -/
structure Catalog where
  entries : List (String × List String)
  deriving DecidableEq

namespace Catalog

/-- The labels of every table that has none of its own. -/
def fallback : List String :=
  ["col1", "col2", "col3"]

def empty : Catalog := ⟨[]⟩

def insert (catalog : Catalog) (table : String) (columns : List String) : Catalog :=
  ⟨(Unicode.toLower table, columns.map Unicode.toLower) :: catalog.entries⟩

/-- The catalogue with entries made one after the other. -/
def extend (catalog : Catalog) (entries : List (String × List String)) : Catalog :=
  entries.foldl (fun catalog entry => catalog.insert entry.1 entry.2) catalog

/-- The tables of the built-in problems. -/
def classroom : Catalog :=
  empty.extend
    [("users", ["id", "name", "email", "password"]),
     ("customers", ["id", "name", "email"]),
     ("orders", ["id", "customer_id", "order_date", "total"]),
     ("posts", ["id", "author_id", "content", "created_at"]),
     ("likes", ["id", "user_id", "post_id"])]

def contains (catalog : Catalog) (table : String) : Bool :=
  (catalog.entries.lookup (Unicode.toLower table)).isSome

def columns (catalog : Catalog) (table : String) : List String :=
  (catalog.entries.lookup (Unicode.toLower table)).getD fallback

/-- The place of the first column with a label. -/
def columnIndex? (catalog : Catalog) (table column : String) : Option Nat :=
  (catalog.columns table).idxOf? (Unicode.toLower column)

theorem columns_insert (catalog : Catalog) (inserted table : String) (labels : List String) :
    (catalog.insert inserted labels).columns table =
      if Unicode.toLower table = Unicode.toLower inserted then labels.map Unicode.toLower
      else catalog.columns table := by
  by_cases h : Unicode.toLower table = Unicode.toLower inserted
  · simp [columns, insert, h]
  · simp [columns, insert, List.lookup_cons, h, beq_eq_false_iff_ne.2 h]

end Catalog

end SqlGrader
