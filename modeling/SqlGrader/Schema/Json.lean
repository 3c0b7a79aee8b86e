import SqlGrader.Json.Reader
import SqlGrader.Json.Fields
import SqlGrader.Schema

/-!
# Schemas in JSON

A schema file lists tables. They are added one after the other, so that a file is held to the
rules of a design.

Source: the field names of `SPEC_FULL.md`, section 3.
-/

set_option autoImplicit false

namespace SqlGrader

/-- Why a text does not define a schema or a problem. -/
inductive DefinitionError where
  /-- It is no JSON text of the expected form. -/
  | json
  /-- A table breaks a rule. -/
  | schema (rule : SchemaError)
  deriving DecidableEq

open Json (Value)

namespace Column

/-- The type of a column that names none. -/
def defaultType : String := "VARCHAR(255)"

def ofJson? (v : Value) : Option Column :=
  match v.fields? ["name", "type", "isPrimaryKey", "isForeignKey"] with
  | some [name, typeName, isPrimaryKey, isForeignKey] => do
    let name ← Value.required Value.asText? name
    let typeName ← Value.optional defaultType Value.asText? typeName
    let isPrimaryKey ← Value.optional false Value.asBool? isPrimaryKey
    let isForeignKey ← Value.optional false Value.asBool? isForeignKey
    return ⟨name, typeName, isPrimaryKey, isForeignKey⟩
  | _ => none

def toJson (column : Column) : Value :=
  .record
    [("name", .text column.name), ("type", .text column.typeName),
     ("isPrimaryKey", .bool column.isPrimaryKey), ("isForeignKey", .bool column.isForeignKey)]

end Column

namespace Table

def ofJson? (v : Value) : Option Table :=
  match v.fields? ["name", "columns"] with
  | some [name, columns] => do
    let name ← Value.required Value.asText? name
    let columns ← Value.optional [] (Value.asList? Column.ofJson?) columns
    return ⟨name, columns⟩
  | _ => none

def toJson (table : Table) : Value :=
  .record [("name", .text table.name), ("columns", .array (table.columns.map Column.toJson))]

end Table

namespace Schema

/-- The tables that a value lists, before any rule is applied. -/
def tablesOfJson? (v : Value) : Option (List Table) :=
  match v.fields? ["tables"] with
  | some [tables] => Value.optional [] (Value.asList? Table.ofJson?) tables
  | _ => none

def toJson (schema : Schema) : Value :=
  .record [("tables", .array (schema.tables.map Table.toJson))]

def parse (text : String) : Except DefinitionError Schema :=
  match (Json.parse? text).bind tablesOfJson? with
  | none => .error .json
  | some tables =>
    match empty.addTables tables with
    | (.error rule, _) => .error (.schema rule)
    | (.ok (), schema) => .ok schema

end Schema

end SqlGrader
