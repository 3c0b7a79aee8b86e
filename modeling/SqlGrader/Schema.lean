import SqlGrader.Unicode.LowerCase
import SqlGrader.Unicode.WhiteSpace

/-!
# Schemas

The tables that a learner designs. A table needs a name, a column with a name, and a primary
key; every schema comes about by adding tables under these rules. Main statement: tables that
keep the rules are added in order, trimmed and without blank columns (`tables_addTables`).

Source: `add_table`, `normalized_tables` and `to_ddl`; `SPEC_FULL.md`, sections 3 and 6.
-/

set_option autoImplicit false

namespace SqlGrader

structure Column where
  name : String
  typeName : String
  isPrimaryKey : Bool
  isForeignKey : Bool
  deriving DecidableEq

structure Table where
  name : String
  columns : List Column
  deriving DecidableEq

/-- The tables of a design, in the order in which they were added. -/
structure Schema where
  tables : List Table
  deriving DecidableEq

/-- The rule that a table breaks. -/
inductive SchemaError where
  | missingTableName
  | noColumns
  | noPrimaryKey
  deriving DecidableEq

namespace SchemaError

def message : SchemaError → String
  | missingTableName => "Please provide a table name"
  | noColumns => "Please provide at least one column with a name"
  | noPrimaryKey => "Please designate at least one column as PRIMARY KEY"

end SchemaError

def isBlankText (text : String) : Bool :=
  text.toList.all Unicode.isWhiteSpace

def trimmed (text : String) : String :=
  String.ofList (Unicode.trim text.toList)

namespace Table

/-- The table as a schema holds it: its name trimmed, and columns without a name dropped. -/
def tidied (table : Table) : Table :=
  ⟨trimmed table.name, table.columns.filter fun column => !isBlankText column.name⟩

/-- The first rule that a table breaks. -/
def brokenRule? (table : Table) : Option SchemaError :=
  if isBlankText table.name then some .missingTableName
  else if table.tidied.columns = [] then some .noColumns
  else if !table.tidied.columns.any (·.isPrimaryKey) then some .noPrimaryKey
  else none

def columnDdl (column : Column) : String :=
  "  " ++ column.name ++ " " ++ column.typeName ++
    (if column.isPrimaryKey then " PRIMARY KEY" else "")

def ddl (table : Table) : String :=
  "CREATE TABLE " ++ table.name ++ " (\n" ++ String.intercalate ",\n" (table.columns.map columnDdl)
    ++ "\n);\n\n"

end Table

namespace Schema

def empty : Schema := ⟨[]⟩

/-- Adds a table, if it breaks no rule. -/
def addTable (schema : Schema) (table : Table) : Except SchemaError Unit × Schema :=
  match table.brokenRule? with
  | some rule => (.error rule, schema)
  | none => (.ok (), ⟨schema.tables ++ [table.tidied]⟩)

/-- Adds tables up to the first that breaks a rule. -/
def addTables (schema : Schema) : List Table → Except SchemaError Unit × Schema
  | [] => (.ok (), schema)
  | table :: rest =>
    match schema.addTable table with
    | (.error rule, schema) => (.error rule, schema)
    | (.ok (), schema) => schema.addTables rest

def isEmpty (schema : Schema) : Bool :=
  schema.tables.isEmpty

/-- The name of the first table, into which rows go that name no table. -/
def firstTable? (schema : Schema) : Option String :=
  schema.tables.head?.map (·.name)

/-- The names of the tables and of their columns, in lower case. -/
def normalizedTables (schema : Schema) : List (String × List String) :=
  schema.tables.map fun table =>
    (Unicode.toLower table.name, table.columns.map fun column => Unicode.toLower column.name)

/-- The script that creates all tables; empty for an empty schema. -/
def ddl (schema : Schema) : String :=
  match schema.tables with
  | [] => ""
  | tables => "-- Database Schema\n\n" ++ String.join (tables.map Table.ddl)

/-- Adding tables that keep the rules adds them all, tidied and in order. -/
theorem tables_addTables {schema : Schema} {tables : List Table}
    (h : ∀ table ∈ tables, table.brokenRule? = none) :
    schema.addTables tables = (.ok (), ⟨schema.tables ++ tables.map Table.tidied⟩) := by
  induction tables generalizing schema with
  | nil => simp [addTables]
  | cons table rest ih =>
    have htable := h table (List.mem_cons_self ..)
    have hrest : ∀ t ∈ rest, t.brokenRule? = none := fun t ht => h t (List.mem_cons_of_mem _ ht)
    simp [addTables, addTable, htable, ih hrest]

end Schema

end SqlGrader
