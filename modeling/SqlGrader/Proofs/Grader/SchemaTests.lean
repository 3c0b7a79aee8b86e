import Mathlib.Data.List.Forall2
import Mathlib.Logic.Relation
import SqlGrader.Grader
import SqlGrader.Proofs.Unicode.AsciiLowerCase

/-!
# Schema tests

A schema test looks at the first table of a name in lower case and at the names of its columns. More
tables behind the others, more columns, another order of the columns and other cases of letters
leave all that was found there in place (`Edit.named?`), so that a schema test that is passed stays
passed. Main statement: `gradeSchema_extends`.
-/

set_option autoImplicit false

namespace SqlGrader

open Unicode (SameLetters)

/-! ## Edits -/

/-- A column that differs in the case of letters of its name. -/
def Column.Respells (column other : Column) : Prop :=
  ∃ name, SameLetters column.name name ∧ other = { column with name }

/-- A change of a table that takes nothing away from it. -/
inductive Table.Edit (table : Table) : Table → Prop where
  | addColumns {columns : List Column} (more : table.columns.Sublist columns) :
      table.Edit ⟨table.name, columns⟩
  | reorderColumns {columns : List Column} (same : table.columns.Perm columns) :
      table.Edit ⟨table.name, columns⟩
  | respell {name : String} {columns : List Column} (letters : SameLetters table.name name)
      (respelled : List.Forall₂ Column.Respells table.columns columns) :
      table.Edit ⟨name, columns⟩

/-- A change of a schema that takes nothing away from it. -/
inductive Schema.Edit : Schema → Schema → Prop where
  | addTables (schema : Schema) (more : List Table) : Edit schema ⟨schema.tables ++ more⟩
  | editTable (before after : List Table) {table other : Table} (edit : table.Edit other) :
      Edit ⟨before ++ table :: after⟩ ⟨before ++ other :: after⟩

/-- An expected table without some of the columns. -/
def ExpectedTable.Reduces (fewer full : ExpectedTable) : Prop :=
  fewer.name = full.name ∧ fewer.columns.Sublist full.columns

/-! ## What a schema offers -/

def Table.labels (table : Table) : List String :=
  table.columns.map fun column => Unicode.toLower column.name

theorem Table.Edit.toLower_name {table other : Table} (edit : table.Edit other) :
    Unicode.toLower other.name = Unicode.toLower table.name := by
  cases edit with
  | addColumns more => rfl
  | reorderColumns same => rfl
  | respell letters respelled => exact (Unicode.toLower_eq_of_sameLetters letters).symm

theorem labels_of_respells {columns others : List Column}
    (respelled : List.Forall₂ Column.Respells columns others) :
    columns.map (fun column => Unicode.toLower column.name) =
      others.map fun column => Unicode.toLower column.name := by
  induction respelled with
  | nil => rfl
  | cons first rest ih =>
    obtain ⟨name, letters, rfl⟩ := first
    rw [List.map_cons, List.map_cons, ih, Unicode.toLower_eq_of_sameLetters letters]

theorem Table.Edit.labels_subset {table other : Table} (edit : table.Edit other) :
    table.labels ⊆ other.labels := by
  unfold labels
  cases edit with
  | addColumns more => exact (more.map _).subset
  | reorderColumns same => exact (same.map _).subset
  | respell letters respelled => rw [labels_of_respells respelled]; exact List.Subset.refl _

namespace Schema

/-- The first table of a name, which is given in lower case. -/
def named? (schema : Schema) (name : String) : Option Table :=
  schema.tables.find? fun table => Unicode.toLower table.name = name

theorem lookup_normalizedTables (schema : Schema) (name : String) :
    schema.normalizedTables.lookup name = (schema.named? name).map Table.labels := by
  obtain ⟨tables⟩ := schema
  unfold normalizedTables named?
  induction tables with
  | nil => rfl
  | cons table rest ih =>
    rw [List.map_cons, Store.lookup_cons_ite, List.find?_cons]
    by_cases here : Unicode.toLower table.name = name
    · simp [here, Table.labels]
    · simpa [here, Ne.symm here] using ih

/-- An edit keeps the first table of a name in its place, and its columns. -/
theorem Edit.named? {schema next : Schema} {name : String} {table : Table}
    (edit : Edit schema next) (found : schema.named? name = some table) :
    ∃ other, next.named? name = some other ∧ table.labels ⊆ other.labels := by
  unfold Schema.named? at found ⊢
  cases edit with
  | addTables more =>
    exact ⟨table, by rw [List.find?_append, found, Option.some_or], List.Subset.refl _⟩
  | @editTable before after changed other edit =>
    rw [List.find?_append] at found ⊢
    -- the table is found in front of the one that is edited, or is that one, or is behind it
    cases front : before.find? fun table => Unicode.toLower table.name = name with
    | some first =>
      rw [front, Option.some_or] at found
      exact ⟨first, rfl, by rw [Option.some.inj found]; exact List.Subset.refl _⟩
    | none =>
      rw [front, Option.none_or, List.find?_cons] at found
      rw [Option.none_or, List.find?_cons, edit.toLower_name]
      split at found
      · cases found
        exact ⟨other, rfl, edit.labels_subset⟩
      · exact ⟨table, found, List.Subset.refl _⟩

theorem named?_of_edits {schema next : Schema} {name : String} {table : Table}
    (edits : Relation.ReflTransGen Edit schema next) (found : schema.named? name = some table) :
    ∃ other, next.named? name = some other ∧ table.labels ⊆ other.labels := by
  induction edits with
  | refl => exact ⟨table, found, List.Subset.refl _⟩
  | tail earlier last ih =>
    obtain ⟨middle, foundMiddle, kept⟩ := ih
    obtain ⟨other, foundOther, keptToo⟩ := last.named? foundMiddle
    exact ⟨other, foundOther, List.Subset.trans kept keptToo⟩

/-! ## What is expected -/

/-- Whether the first table of the name is there and has all columns that are expected. -/
def Meets (schema : Schema) (expected : ExpectedTable) : Prop :=
  ∃ table, schema.named? (Unicode.toLower expected.name) = some table ∧
    ∀ column ∈ expected.columns, Unicode.toLower column ∈ table.labels

theorem Meets.of_edits {schema next : Schema} {expected : ExpectedTable}
    (meets : schema.Meets expected) (edits : Relation.ReflTransGen Edit schema next) :
    next.Meets expected := by
  obtain ⟨table, found, offered⟩ := meets
  obtain ⟨other, foundOther, kept⟩ := named?_of_edits edits found
  exact ⟨other, foundOther, fun column member => kept (offered column member)⟩

theorem Meets.of_reduces {schema : Schema} {fewer full : ExpectedTable} (meets : schema.Meets full)
    (reduces : fewer.Reduces full) : schema.Meets fewer := by
  obtain ⟨table, found, offered⟩ := meets
  obtain ⟨name, columns⟩ := reduces
  exact ⟨table, name ▸ found, fun column member => offered column (columns.subset member)⟩

theorem meets_of_fewer {schema : Schema} {fewer full : List ExpectedTable}
    (reduced : List.SublistForall₂ ExpectedTable.Reduces fewer full)
    (meets : ∀ expected ∈ full, schema.Meets expected) :
    ∀ expected ∈ fewer, schema.Meets expected := by
  induction reduced with
  | nil => simp
  | cons first rest ih =>
    rw [List.forall_mem_cons] at meets ⊢
    exact ⟨meets.1.of_reduces first, ih meets.2⟩
  | cons_right rest ih => exact ih (List.forall_mem_cons.1 meets).2

def missingTables (schema : Schema) (expected : List ExpectedTable) : List String :=
  (expected.map fun table => Unicode.toLower table.name).filter fun name =>
    (schema.named? name).isNone

/-- The expected columns with the names of their tables, in lower case and in their order, that the
first table of the name does not have. -/
def missingColumns (schema : Schema) (expected : List ExpectedTable) : List (String × String) :=
  (expected.flatMap fun table => table.columns.map fun column =>
    (Unicode.toLower table.name, Unicode.toLower column)).filter fun (name, column) =>
      (schema.named? name).any fun table => column ∉ table.labels

theorem missingTables_eq_nil_iff {schema : Schema} {expected : List ExpectedTable} :
    schema.missingTables expected = [] ↔
      ∀ table ∈ expected, schema.named? (Unicode.toLower table.name) ≠ none := by
  simp [missingTables]

theorem missingColumns_eq_nil_iff {schema : Schema} {expected : List ExpectedTable} :
    schema.missingColumns expected = [] ↔
      ∀ table ∈ expected, ∀ column ∈ table.columns,
        ∀ offered, schema.named? (Unicode.toLower table.name) = some offered →
          Unicode.toLower column ∈ offered.labels := by
  simp only [missingColumns, List.filter_eq_nil_iff, List.forall_mem_flatMap, List.forall_mem_map]
  simp [Option.any_eq_false]

/-- Nothing is missing exactly if the schema has all that is expected. -/
theorem nothing_missing_iff {schema : Schema} {expected : List ExpectedTable} :
    schema.missingTables expected = [] ∧ schema.missingColumns expected = [] ↔
      ∀ table ∈ expected, schema.Meets table := by
  rw [missingTables_eq_nil_iff, missingColumns_eq_nil_iff]
  constructor
  · rintro ⟨tables, columns⟩ table member
    obtain ⟨offered, found⟩ := Option.ne_none_iff_exists'.1 (tables table member)
    exact ⟨offered, found, fun column isColumn => columns table member column isColumn _ found⟩
  · intro meets
    refine ⟨fun table member => ?_, fun table member column isColumn other isOffered => ?_⟩
    · obtain ⟨offered, found, -⟩ := meets table member
      simp [found]
    · obtain ⟨offered, found, has⟩ := meets table member
      obtain rfl := Option.some.inj (found.symm.trans isOffered)
      exact has column isColumn

end Schema

namespace Grader

open Schema

theorem lackOf_eq (schema : Schema) (expected : ExpectedTable) :
    lackOf schema.normalizedTables expected =
      match schema.named? (Unicode.toLower expected.name) with
      | none => .table (Unicode.toLower expected.name)
      | some table => .columns (((expected.columns.map Unicode.toLower).filter
          fun column => column ∉ table.labels).map
            fun column => Unicode.toLower expected.name ++ "." ++ column) := by
  rw [lackOf, lookup_normalizedTables]
  cases schema.named? (Unicode.toLower expected.name) with
  | none => rfl
  | some table => simp

/-- What a test collects as missing are the names that are expected and not offered. -/
theorem missing_eq (schema : Schema) (expected : List ExpectedTable) :
    missing schema expected = (schema.missingTables expected,
      (schema.missingColumns expected).map fun (name, column) => name ++ "." ++ column) := by
  induction expected with
  | nil => rfl
  | cons table rest ih =>
    obtain ⟨tables, columns⟩ := Prod.mk.inj ih
    unfold missing missingTables missingColumns at *
    dsimp only at *
    rw [List.map_cons, List.filterMap_cons, List.flatMap_cons, tables, columns, lackOf_eq]
    cases found : schema.named? (Unicode.toLower table.name) with
    | none => simp [found]
    | some offered => simp [found, List.filter_map, Function.comp_def]

/-- A schema test is passed exactly if the schema has all that is expected. -/
theorem passed_iff (test : SchemaTest) (schema : Schema) :
    (gradeSchema test schema).passed = true ↔
      ∀ expected ∈ test.expectedTables, schema.Meets expected := by
  rw [← nothing_missing_iff]
  simp [gradeSchema, missing_eq]

theorem gradeSchema_points (test : SchemaTest) (schema : Schema) :
    (gradeSchema test schema).points =
      if (gradeSchema test schema).passed then test.points else 0 := by
  simp [gradeSchema]

/-- A schema test is passed exactly if nothing is missing, then with all its points, and stays so
for every schema that comes from the schema by edits and with less that is expected. One that is
failed gives no points, and its message names the expected tables and columns that the first table
of the name does not offer, in lower case and in their order. -/
theorem gradeSchema_extends (test : SchemaTest) (schema : Schema) :
    let result := gradeSchema test schema
    let tables := schema.missingTables test.expectedTables
    let columns := (schema.missingColumns test.expectedTables).map fun (name, column) =>
      name ++ "." ++ column
    (result.passed = true ↔ tables = [] ∧ columns = []) ∧
    (result.passed = true → result.points = test.points ∧
      ∀ (next : Schema) (fewer : List ExpectedTable),
        Relation.ReflTransGen Edit schema next →
        List.SublistForall₂ ExpectedTable.Reduces fewer test.expectedTables →
        let again := gradeSchema { test with expectedTables := fewer } next
        again.passed = true ∧ again.points = test.points) ∧
    (result.passed = false → result.points = 0 ∧
      missing schema test.expectedTables = (tables, columns) ∧
        result.message = schemaMessage tables columns) := by
  intro result tables columns
  refine ⟨?_, fun passed => ⟨?_, fun next fewer edits reduced => ?_⟩, fun failed => ⟨?_, ?_, ?_⟩⟩
  · rw [List.map_eq_nil_iff, nothing_missing_iff]
    exact passed_iff test schema
  · exact (gradeSchema_points test schema).trans (if_pos passed)
  · have meets := (passed_iff test schema).1 passed
    have again := (passed_iff { test with expectedTables := fewer } next).2 fun expected member =>
      (meets_of_fewer reduced meets expected member).of_edits edits
    exact ⟨again, (gradeSchema_points _ next).trans (if_pos again)⟩
  · rw [gradeSchema_points, failed]
    rfl
  · exact missing_eq schema test.expectedTables
  · simp only [result, gradeSchema, missing_eq, tables, columns]

/-- A table with one more column, in another order and in capital letters, in front of an empty one
of the same name; and the empty one in front, which takes the name. -/
theorem gradeSchema_extends_users :
    let id : Column := ⟨"id", "INT", true, false⟩
    let email : Column := ⟨"email", "TEXT", false, false⟩
    let age : Column := ⟨"age", "INT", false, false⟩
    let test : SchemaTest := ⟨"tables", "", [⟨"Users", ["ID"]⟩, ⟨"users", ["Email", "id"]⟩], 5⟩
    let schema : Schema := ⟨[⟨"users", [id, email]⟩]⟩
    let next : Schema := ⟨[⟨"USERS", [email, age, id]⟩, ⟨"users", []⟩]⟩
    let shadowed : Schema := ⟨[⟨"users", []⟩, ⟨"users", [id, email]⟩]⟩
    let fewer : List ExpectedTable := [⟨"users", ["id"]⟩]
    (gradeSchema test schema).passed = true ∧
      (gradeSchema { test with expectedTables := fewer } next).passed = true ∧
      (gradeSchema { test with expectedTables := fewer } next).points = 5 ∧
      (gradeSchema test shadowed).points = 0 ∧
      (gradeSchema test shadowed).message =
        "Missing columns: users.id, users.email, users.id" := by
  intro id email age test schema next shadowed fewer
  have passed : (gradeSchema test schema).passed = true := by decide +kernel
  have failed : (gradeSchema test shadowed).passed = false := by decide +kernel
  have adds : Edit schema ⟨[⟨"users", [id, email, age]⟩]⟩ :=
    .editTable [] [] (.addColumns (List.sublist_append_left [id, email] [age]))
  have reorders : Edit ⟨[⟨"users", [id, email, age]⟩]⟩ ⟨[⟨"users", [email, age, id]⟩]⟩ :=
    .editTable [] [] (.reorderColumns (@List.perm_append_comm _ [id] [email, age]))
  have respells : Edit ⟨[⟨"users", [email, age, id]⟩]⟩ ⟨[⟨"USERS", [email, age, id]⟩]⟩ :=
    .editTable [] [] (.respell (by decide) (List.forall₂_same.2 fun column _ =>
      ⟨column.name, rfl, rfl⟩))
  have edits : Relation.ReflTransGen Edit schema next :=
    (((Relation.ReflTransGen.single adds).tail reorders).tail respells).tail (.addTables _ _)
  have reduced : List.SublistForall₂ ExpectedTable.Reduces fewer test.expectedTables :=
    .cons_right (.cons ⟨rfl, by decide⟩ .nil)
  obtain ⟨again, points⟩ :=
    ((gradeSchema_extends test schema).2.1 passed).2 next fewer edits reduced
  obtain ⟨none, -, message⟩ := (gradeSchema_extends test shadowed).2.2 failed
  exact ⟨passed, again, points, none, message.trans (by decide +kernel)⟩

end Grader

end SqlGrader
