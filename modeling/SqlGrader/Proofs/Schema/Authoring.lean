import Mathlib.Data.List.Forall2
import SqlGrader.Proofs.Json.ReadBack
import SqlGrader.Proofs.Json.Records
import SqlGrader.Proofs.Unicode.TrimmedEnds
import SqlGrader.Schema.Json

/-!
# Designed schemas

A table is added exactly if it keeps the rules of a design (`Acceptable`), and is tidied on the way,
so that every table of a schema is well formed (`WellFormed`). A table that is well formed is
accepted as it is, which makes a schema its own file: the file is read back as the schema. Main
statement: `calls_and_reload`.
-/

set_option autoImplicit false

namespace SqlGrader

theorem isBlankText_eq_true_iff {text : String} :
    isBlankText text = true ↔ Unicode.trim text.toList = [] := by
  rw [isBlankText, List.all_eq_true, Unicode.trim_eq_nil_iff]

theorem isBlankText_eq_false_iff {text : String} :
    isBlankText text = false ↔ Unicode.trim text.toList ≠ [] := by
  rw [← Bool.not_eq_true, isBlankText_eq_true_iff]

namespace Table

/-! ## The rules -/

/-- Whether a table can be added: it has a name, and among its columns with a name a primary key. -/
structure Acceptable (table : Table) : Prop where
  named : isBlankText table.name = false
  key : ∃ column ∈ table.columns, isBlankText column.name = false ∧ column.isPrimaryKey = true

/-- The rule that a table is refused for. Columns without a name count for nothing, and a rule
counts only if those before it are kept. -/
inductive Breaks (table : Table) : SchemaError → Prop where
  | missingTableName (blank : isBlankText table.name = true) : Breaks table .missingTableName
  | noColumns (named : isBlankText table.name = false)
      (none? : ∀ column ∈ table.columns, isBlankText column.name = true) : Breaks table .noColumns
  | noPrimaryKey (named : isBlankText table.name = false)
      (some? : ∃ column ∈ table.columns, isBlankText column.name = false)
      (noKey : ∀ column ∈ table.columns, isBlankText column.name = false →
        column.isPrimaryKey = false) : Breaks table .noPrimaryKey

/-- Whether a call with a table may return a result. -/
def Answers (table : Table) : Except SchemaError Unit → Prop
  | .ok _ => table.Acceptable
  | .error rule => table.Breaks rule

/-- A table of a design: its name is a text without white space at its ends, and it has columns, all
of them with a name, and one of them a primary key. -/
structure WellFormed (table : Table) : Prop where
  name_ne_empty : table.name ≠ ""
  name_trimmed : Unicode.Trimmed table.name.toList
  columns_ne_nil : table.columns ≠ []
  columns_named : ∀ column ∈ table.columns, isBlankText column.name = false
  key : ∃ column ∈ table.columns, column.isPrimaryKey = true

instance (table : Table) : Decidable table.WellFormed :=
  decidable_of_iff (table.name ≠ "" ∧ Unicode.Trimmed table.name.toList ∧ table.columns ≠ [] ∧
      (∀ column ∈ table.columns, isBlankText column.name = false) ∧
      ∃ column ∈ table.columns, column.isPrimaryKey = true)
    ⟨fun ⟨name, ends, columns, named, key⟩ => ⟨name, ends, columns, named, key⟩,
      fun ⟨name, ends, columns, named, key⟩ => ⟨name, ends, columns, named, key⟩⟩

variable {table : Table}

theorem mem_columns_tidied {column : Column} :
    column ∈ table.tidied.columns ↔
      column ∈ table.columns ∧ isBlankText column.name = false := by
  simp [tidied]

theorem columns_tidied_eq_nil_iff :
    table.tidied.columns = [] ↔ ∀ column ∈ table.columns, isBlankText column.name = true := by
  simp [tidied]

/-- A table keeps all rules or is refused for one. -/
theorem acceptable_or_breaks (table : Table) : table.Acceptable ∨ ∃ rule, table.Breaks rule := by
  cases named : isBlankText table.name with
  | true => exact .inr ⟨_, .missingTableName named⟩
  | false =>
    by_cases none? : ∀ column ∈ table.columns, isBlankText column.name = true
    · exact .inr ⟨_, .noColumns named none?⟩
    by_cases key : ∃ column ∈ table.columns,
        isBlankText column.name = false ∧ column.isPrimaryKey = true
    · exact .inl ⟨named, key⟩
    · push Not at none? key
      exact .inr ⟨_, .noPrimaryKey named (by simpa using none?) (by simpa using key)⟩

theorem Acceptable.brokenRule?_eq_none (acceptable : table.Acceptable) :
    table.brokenRule? = none := by
  obtain ⟨named, column, member, isNamed, isKey⟩ := acceptable
  have kept : column ∈ table.tidied.columns := mem_columns_tidied.2 ⟨member, isNamed⟩
  have some? : table.tidied.columns ≠ [] := List.ne_nil_of_mem kept
  have key : table.tidied.columns.any (·.isPrimaryKey) = true :=
    List.any_eq_true.2 ⟨column, kept, isKey⟩
  simp [brokenRule?, named, some?, key]

theorem Breaks.brokenRule?_eq_some {rule : SchemaError} (breaks : table.Breaks rule) :
    table.brokenRule? = some rule := by
  cases breaks with
  | missingTableName blank => simp [brokenRule?, blank]
  | noColumns named none? =>
    have dropped := columns_tidied_eq_nil_iff.2 none?
    simp [brokenRule?, named, dropped]
  | noPrimaryKey named some? noKey =>
    obtain ⟨column, member, isNamed⟩ := some?
    have kept : table.tidied.columns ≠ [] :=
      List.ne_nil_of_mem (mem_columns_tidied.2 ⟨member, isNamed⟩)
    have key : table.tidied.columns.any (·.isPrimaryKey) = false := by
      rw [List.any_eq_false]
      intro column member
      obtain ⟨listed, isNamed⟩ := mem_columns_tidied.1 member
      simp [noKey column listed isNamed]
    simp [brokenRule?, named, kept, key]

/-! ## Well-formed tables -/

/-- What is accepted is well formed once it is tidied. -/
theorem Acceptable.wellFormed_tidied (acceptable : table.Acceptable) :
    table.tidied.WellFormed := by
  obtain ⟨named, column, member, isNamed, key⟩ := acceptable
  have kept : column ∈ table.tidied.columns := mem_columns_tidied.2 ⟨member, isNamed⟩
  constructor
  · intro empty
    exact isBlankText_eq_false_iff.1 named (String.ofList_eq_empty_iff.1 empty)
  · change Unicode.Trimmed (String.ofList (Unicode.trim table.name.toList)).toList
    rw [String.toList_ofList]
    exact Unicode.trimmed_trim _
  · exact List.ne_nil_of_mem kept
  · exact fun column member => (mem_columns_tidied.1 member).2
  · exact ⟨column, kept, key⟩

/-- A table that is well formed keeps the rules. -/
theorem WellFormed.acceptable (wellFormed : table.WellFormed) : table.Acceptable := by
  constructor
  · rw [isBlankText_eq_false_iff, Unicode.trim_eq_self wellFormed.name_trimmed]
    exact fun empty => wellFormed.name_ne_empty (String.toList_eq_nil_iff.1 empty)
  · obtain ⟨column, member, key⟩ := wellFormed.key
    exact ⟨column, member, wellFormed.columns_named column member, key⟩

/-- A table that is well formed is tidy. -/
theorem WellFormed.tidied_eq_self (wellFormed : table.WellFormed) : table.tidied = table := by
  have name : trimmed table.name = table.name := by
    rw [trimmed, Unicode.trim_eq_self wellFormed.name_trimmed, String.ofList_toList]
  have columns : table.tidied.columns = table.columns :=
    List.filter_eq_self.2 fun column member => by
      rw [wellFormed.columns_named column member]
      rfl
  cases table
  exact congrArg₂ Table.mk name columns

end Table

namespace Schema

/-! ## Calls -/

/-- What calls to add a table return one after the other, and the schema after all of them. -/
def callAll (schema : Schema) : List Table → List (Except SchemaError Unit) × Schema
  | [] => ([], schema)
  | table :: rest =>
    let (result, next) := schema.addTable table
    let (results, last) := next.callAll rest
    (result :: results, last)

def added (calls : List Table) (results : List (Except SchemaError Unit)) : List Table :=
  ((calls.zip results).filter (·.2.isOk)).map Prod.fst

variable {schema : Schema} {table : Table}

theorem addTable_of_acceptable (acceptable : table.Acceptable) :
    schema.addTable table = (.ok (), ⟨schema.tables ++ [table.tidied]⟩) := by
  simp only [addTable, acceptable.brokenRule?_eq_none]

theorem addTable_of_breaks {rule : SchemaError} (breaks : table.Breaks rule) :
    schema.addTable table = (.error rule, schema) := by
  simp only [addTable, breaks.brokenRule?_eq_some]

/-- A call that fails leaves the schema as it is. -/
theorem addTable_of_error {rule : SchemaError} (failed : (schema.addTable table).1 = .error rule) :
    (schema.addTable table).2 = schema := by
  obtain acceptable | ⟨rule, breaks⟩ := table.acceptable_or_breaks
  · rw [addTable_of_acceptable acceptable] at failed
    cases failed
  · rw [addTable_of_breaks breaks]

/-- Each call returns what the rules say of its table, and the tables of the calls that do not fail
are added in order. -/
theorem callAll_spec (schema : Schema) (calls : List Table) :
    List.Forall₂ Table.Answers calls (schema.callAll calls).1 ∧
      (schema.callAll calls).2.tables =
        schema.tables ++ (added calls (schema.callAll calls).1).map Table.tidied := by
  induction calls generalizing schema with
  | nil => exact ⟨.nil, (List.append_nil _).symm⟩
  | cons table rest ih =>
    obtain acceptable | ⟨rule, breaks⟩ := table.acceptable_or_breaks
    · obtain ⟨answers, tables⟩ := ih ⟨schema.tables ++ [table.tidied]⟩
      simp only [callAll, addTable_of_acceptable acceptable]
      refine ⟨.cons acceptable answers, ?_⟩
      rw [tables, List.append_assoc]
      rfl
    · obtain ⟨answers, tables⟩ := ih schema
      simp only [callAll, addTable_of_breaks breaks]
      exact ⟨.cons breaks answers, tables⟩

/-- A table is added only if it is well formed, once it is tidied. -/
theorem wellFormed_of_mem_added {calls : List Table} {results : List (Except SchemaError Unit)}
    (answers : List.Forall₂ Table.Answers calls results) :
    ∀ table ∈ (added calls results).map Table.tidied, table.WellFormed := by
  induction answers with
  | nil => exact List.forall_mem_nil _
  | @cons table result calls results answer others ih =>
    cases result with
    | error rule => exact ih
    | ok => exact List.forall_mem_cons.2 ⟨Table.Acceptable.wellFormed_tidied answer, ih⟩

/-! ## Files -/

/-- Either all tables keep the rules, or there is a first one that does not. -/
theorem acceptable_or_first_bad (tables : List Table) :
    (∀ table ∈ tables, table.Acceptable) ∨
      ∃ good bad rest rule, tables = good ++ bad :: rest ∧
        (∀ table ∈ good, table.Acceptable) ∧ bad.Breaks rule := by
  induction tables with
  | nil => exact .inl (List.forall_mem_nil _)
  | cons table rest ih =>
    obtain acceptable | ⟨rule, breaks⟩ := table.acceptable_or_breaks
    · obtain others | ⟨good, bad, rest, rule, rfl, kept, breaks⟩ := ih
      · exact .inl (List.forall_mem_cons.2 ⟨acceptable, others⟩)
      · exact .inr ⟨table :: good, bad, rest, rule, rfl, List.forall_mem_cons.2 ⟨acceptable, kept⟩,
          breaks⟩
    · exact .inr ⟨[], table, rest, rule, rfl, List.forall_mem_nil _, breaks⟩

theorem addTables_of_acceptable {tables : List Table}
    (acceptable : ∀ table ∈ tables, table.Acceptable) :
    schema.addTables tables = (.ok (), ⟨schema.tables ++ tables.map Table.tidied⟩) :=
  tables_addTables fun table member => (acceptable table member).brokenRule?_eq_none

/-- Adding stops at the first table that breaks a rule. Those before it have been added. -/
theorem addTables_of_first_bad {good rest : List Table} {bad : Table} {rule : SchemaError}
    (kept : ∀ table ∈ good, table.Acceptable) (breaks : bad.Breaks rule) :
    schema.addTables (good ++ bad :: rest) =
      (.error rule, ⟨schema.tables ++ good.map Table.tidied⟩) := by
  induction good generalizing schema with
  | nil => simp [addTables, addTable_of_breaks breaks]
  | cons table good ih =>
    obtain ⟨first, others⟩ := List.forall_mem_cons.1 kept
    simp [addTables, addTable_of_acceptable first, ih others]

end Schema

/-! ## A schema as its own file -/

open Json (Value)
open Json.Value (StandsFor)

theorem Column.standsFor_toJson (column : Column) :
    StandsFor Column.ofJson? 1 column.toJson column := by
  constructor
  · exact Value.isReadable_record_iff.2 (by simp [Value.isReadable, Value.text])
  · unfold Column.ofJson? Column.toJson
    rw [Value.fields?_record (by simp)]
    simp [List.lookup_cons, Value.required, Value.optional]

theorem Table.standsFor_toJson (table : Table) :
    StandsFor Table.ofJson? 3 table.toJson table := by
  have columns := Value.standsFor_array fun column (_ : column ∈ table.columns) =>
    column.standsFor_toJson
  constructor
  · exact Value.isReadable_record_iff.2
      (List.forall_mem_cons.2 ⟨rfl, List.forall_mem_singleton.2 columns.readable⟩)
  · unfold Table.ofJson? Table.toJson
    rw [Value.fields?_record (by simp)]
    simp [List.lookup_cons, Value.required, Value.optional, columns.reads]

namespace Schema

theorem standsFor_toJson (schema : Schema) :
    StandsFor tablesOfJson? 5 schema.toJson schema.tables := by
  have tables := Value.standsFor_array fun table (_ : table ∈ schema.tables) =>
    table.standsFor_toJson
  constructor
  · exact Value.isReadable_record_iff.2 (List.forall_mem_singleton.2 tables.readable)
  · unfold tablesOfJson? toJson
    rw [Value.fields?_record (by simp)]
    simp [List.lookup_cons, Value.optional, tables.reads]

variable {schema : Schema} {text : String}

section

variable {tables : List Table} (listed : (Json.parse? text).bind tablesOfJson? = some tables)

include listed

theorem parse_of_acceptable (acceptable : ∀ table ∈ tables, table.Acceptable) :
    parse text = .ok ⟨tables.map Table.tidied⟩ := by
  rw [parse, listed]
  simp only [addTables_of_acceptable acceptable]
  rfl

theorem parse_of_first_bad {good rest : List Table} {bad : Table} {rule : SchemaError}
    (cut : tables = good ++ bad :: rest) (kept : ∀ table ∈ good, table.Acceptable)
    (breaks : bad.Breaks rule) : parse text = .error (.schema rule) := by
  rw [parse, listed, cut]
  simp only [addTables_of_first_bad kept breaks]

/-- A text that lists tables is read if all of them keep the rules. -/
theorem parse_eq_ok_iff :
    parse text = .ok schema ↔
      (∀ table ∈ tables, table.Acceptable) ∧ schema = ⟨tables.map Table.tidied⟩ := by
  constructor
  · intro read
    obtain acceptable | ⟨good, bad, rest, rule, cut, kept, breaks⟩ := acceptable_or_first_bad tables
    · rw [parse_of_acceptable listed acceptable] at read
      cases read
      exact ⟨acceptable, rfl⟩
    · rw [parse_of_first_bad listed cut kept breaks] at read
      cases read
  · rintro ⟨acceptable, rfl⟩
    exact parse_of_acceptable listed acceptable

/-- A text that lists tables is refused for the first table that does not keep the rules. -/
theorem parse_eq_error_iff {e : DefinitionError} :
    parse text = .error e ↔
      ∃ good bad rest rule, tables = good ++ bad :: rest ∧ (∀ table ∈ good, table.Acceptable) ∧
        bad.Breaks rule ∧ e = .schema rule := by
  constructor
  · intro refused
    obtain acceptable | ⟨good, bad, rest, rule, cut, kept, breaks⟩ := acceptable_or_first_bad tables
    · rw [parse_of_acceptable listed acceptable] at refused
      cases refused
    · rw [parse_of_first_bad listed cut kept breaks] at refused
      cases refused
      exact ⟨good, bad, rest, rule, cut, kept, breaks, rfl⟩
  · rintro ⟨good, bad, rest, rule, cut, kept, breaks, rfl⟩
    exact parse_of_first_bad listed cut kept breaks

end

/-- A schema of well-formed tables is read back from its file. -/
theorem parse_render (wellFormed : ∀ table ∈ schema.tables, table.WellFormed) :
    parse schema.toJson.render = .ok schema := by
  have written := schema.standsFor_toJson
  have listed : (Json.parse? schema.toJson.render).bind tablesOfJson? = some schema.tables := by
    rw [Json.parse?_render written.readable, Option.bind_some, written.reads]
  have tidy : schema.tables.map Table.tidied = schema.tables := by
    rw [List.map_congr_left fun table member => (wellFormed table member).tidied_eq_self,
      List.map_id']
  rw [parse_of_acceptable listed fun table member => (wellFormed table member).acceptable, tidy]

/-- Whatever is read has well-formed tables. -/
theorem wellFormed_of_parse (read : parse text = .ok schema) :
    ∀ table ∈ schema.tables, table.WellFormed := by
  cases listed : (Json.parse? text).bind tablesOfJson? with
  | none =>
    rw [parse, listed] at read
    cases read
  | some tables =>
    obtain ⟨acceptable, rfl⟩ := (parse_eq_ok_iff listed).1 read
    exact List.forall_mem_map.2 fun table member => (acceptable table member).wellFormed_tidied

/-- Whatever calls are made on a schema of well-formed tables, a call that fails leaves the schema
as it is, and the tables stay well formed, those of the calls that do not fail behind the others
in their order. A text that lists tables is read exactly if all of them keep the same rules, and is
otherwise refused for the rule that the first other one breaks. A schema that is read is read again
from its own text. -/
theorem calls_and_reload {start : Schema}
    (wellFormed : ∀ table ∈ start.tables, table.WellFormed) (calls : List Table) (text : String) :
    (∀ table rule, ((start.callAll calls).2.addTable table).1 = .error rule →
      ((start.callAll calls).2.addTable table).2 = (start.callAll calls).2) ∧
    List.Forall₂ Table.Answers calls (start.callAll calls).1 ∧
    (start.callAll calls).2.tables =
      start.tables ++ (added calls (start.callAll calls).1).map Table.tidied ∧
    (∀ table ∈ (start.callAll calls).2.tables, table.WellFormed) ∧
    (∀ tables, (Json.parse? text).bind tablesOfJson? = some tables →
      (∀ schema, parse text = .ok schema ↔
        (∀ table ∈ tables, table.Acceptable) ∧ schema = ⟨tables.map Table.tidied⟩) ∧
      ∀ e, parse text = .error e ↔
        ∃ good bad rest rule, tables = good ++ bad :: rest ∧
          (∀ table ∈ good, table.Acceptable) ∧ bad.Breaks rule ∧ e = .schema rule) ∧
    (∀ schema, parse text = .ok schema → parse schema.toJson.render = .ok schema) := by
  obtain ⟨answers, tables⟩ := callAll_spec start calls
  refine ⟨fun table rule => addTable_of_error, answers, tables, ?_, ?_, ?_⟩
  · intro table member
    rw [tables] at member
    rcases List.mem_append.1 member with before | new
    · exact wellFormed table before
    · exact wellFormed_of_mem_added answers table new
  · exact fun tables listed =>
      ⟨fun schema => parse_eq_ok_iff listed, fun e => parse_eq_error_iff listed⟩
  · exact fun schema read => parse_render (wellFormed_of_parse read)

/-- A table with blanks around its name, one whose key has no name and one with a name of blanks are
added to a schema with a table. The file leaves out the type of a column. -/
theorem calls_and_reload_users :
    let users : Table := ⟨"users", [⟨"id", "INT", true, false⟩]⟩
    let orders : Table := ⟨"orders", [⟨"id", "INT", true, false⟩]⟩
    let calls : List Table :=
      [⟨" orders\n", [⟨"\t", "INT", false, false⟩, ⟨"id", "INT", true, false⟩]⟩,
       ⟨"t", [⟨"", "INT", true, false⟩, ⟨"a", "INT", false, false⟩]⟩, ⟨" ", orders.columns⟩]
    let file : Value := .record [("tables", .array [.record [("name", .text " t"),
      ("columns", .array [.record [("name", .text "id"), ("isPrimaryKey", .bool true)],
        .record [("name", .text " ")]])]])]
    let listed : Schema := ⟨[⟨"t", [⟨"id", "VARCHAR(255)", true, false⟩]⟩]⟩
    (∀ table ∈ (Schema.mk [users]).tables, table.WellFormed) ∧
      ((⟨[users]⟩ : Schema).callAll calls).1.map Except.toOption = [some (), none, none] ∧
      ((⟨[users]⟩ : Schema).callAll calls).2 = ⟨[users, orders]⟩ ∧
      (∀ table ∈ ((⟨[users]⟩ : Schema).callAll calls).2.tables, table.WellFormed) ∧
      parse file.render = .ok listed ∧ parse listed.toJson.render = .ok listed := by
  intro users orders calls file listed
  have wellFormed : ∀ table ∈ (Schema.mk [users]).tables, table.WellFormed := by decide +kernel
  have tables : (Json.parse? file.render).bind tablesOfJson? =
      some [⟨" t",
        [⟨"id", "VARCHAR(255)", true, false⟩, ⟨" ", "VARCHAR(255)", false, false⟩]⟩] := by
    rw [@Json.parse?_render file 5 (by decide +kernel), Option.bind_some]
    decide +kernel
  have read : parse file.render = .ok listed := by
    rw [parse, tables]
    rfl
  obtain ⟨-, -, -, kept, -, reload⟩ := calls_and_reload wellFormed calls file.render
  exact ⟨wellFormed, by decide +kernel, by decide +kernel, kept, read, reload listed read⟩

end Schema

end SqlGrader
