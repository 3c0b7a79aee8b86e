import SqlGrader.Cell

/-!
# Stores

Tables of rows by name. Names are the same when their lower-case forms are, and a table is kept
under that form. The view of a store is `rows?`; main statements: what each operation does to
it (`rows?_create`, `rows?_drop`, `rows?_modify`).

Source: `create_table`, `drop_table` and `table_names`; `SPEC_FULL.md`, section 3.
-/

set_option autoImplicit false

namespace SqlGrader

/-- Tables under names in lower case, each with its rows in the order of insertion. -/
structure Store where
  tables : List (String × List Row)
  deriving DecidableEq

namespace Store

def empty : Store := ⟨[]⟩

def key (name : String) : String :=
  Unicode.toLower name

def rows? (store : Store) (name : String) : Option (List Row) :=
  store.tables.lookup (key name)

/-- The rows of a table; a table that does not exist has none. -/
def rows (store : Store) (name : String) : List Row :=
  (store.rows? name).getD []

def contains (store : Store) (name : String) : Bool :=
  (store.rows? name).isSome

def drop (store : Store) (name : String) : Store :=
  ⟨store.tables.filter (·.1 != key name)⟩

/-- The store with an empty table of a name, in place of any table of that name. -/
def create (store : Store) (name : String) : Store :=
  ⟨(store.drop name).tables ++ [(key name, [])]⟩

/-- The store with the rows of one table changed; unchanged if there is no such table. -/
def modify (store : Store) (name : String) (change : List Row → List Row) : Store :=
  ⟨store.tables.map fun (table, rows) =>
    if table = key name then (table, change rows) else (table, rows)⟩

def size (store : Store) : Nat :=
  store.tables.length

def sortedTables (store : Store) : List (String × List Row) :=
  store.tables.mergeSort fun a b => decide (a.1 ≤ b.1)

def tableNames (store : Store) : List String :=
  store.sortedTables.map (·.1)

theorem lookup_cons_ite {α : Type} (table name : String) (value : α) (rest : List (String × α)) :
    ((table, value) :: rest).lookup name =
      if name = table then some value else rest.lookup name := by
  by_cases h : name = table
  · simp [h]
  · simp [List.lookup_cons, h, beq_eq_false_iff_ne.2 h]

theorem lookup_filter_ne {tables : List (String × List Row)} {removed name : String} :
    (tables.filter (·.1 != removed)).lookup name =
      if name = removed then none else tables.lookup name := by
  induction tables with
  | nil => simp
  | cons entry rest ih =>
    obtain ⟨table, rows⟩ := entry
    by_cases htable : table = removed
    · subst htable
      have hdropped : (((table, rows) :: rest).filter (·.1 != table)) =
          rest.filter (·.1 != table) := by simp
      rw [hdropped, ih, lookup_cons_ite]
      split <;> simp_all
    · have hkept : (((table, rows) :: rest).filter (·.1 != removed)) =
          (table, rows) :: rest.filter (·.1 != removed) := by simp [htable]
      rw [hkept, lookup_cons_ite, lookup_cons_ite, ih]
      split
      · rename_i hname
        rw [if_neg (hname ▸ htable)]
      · rfl

theorem rows?_drop (store : Store) (dropped name : String) :
    (store.drop dropped).rows? name =
      if key name = key dropped then none else store.rows? name :=
  lookup_filter_ne

theorem rows?_create (store : Store) (created name : String) :
    (store.create created).rows? name =
      if key name = key created then some [] else store.rows? name := by
  simp only [rows?, create, drop, List.lookup_append, lookup_filter_ne, lookup_cons_ite]
  by_cases h : key name = key created <;> simp [h]

theorem rows?_modify (store : Store) (modified name : String) (change : List Row → List Row) :
    (store.modify modified change).rows? name =
      if key name = key modified then (store.rows? name).map change else store.rows? name := by
  obtain ⟨tables⟩ := store
  simp only [rows?, modify]
  induction tables with
  | nil => simp
  | cons entry rest ih =>
    obtain ⟨table, rows⟩ := entry
    by_cases htable : table = key modified
    · subst htable
      by_cases hname : key name = key modified <;> simp_all [lookup_cons_ite]
    · simp only [List.map_cons, htable, if_false, lookup_cons_ite]
      rw [ih]
      split
      · rename_i hname
        rw [if_neg (hname ▸ htable)]
      · rfl

end Store

end SqlGrader
