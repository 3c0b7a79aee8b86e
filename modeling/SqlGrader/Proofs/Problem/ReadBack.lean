import SqlGrader.Problem.Json
import SqlGrader.Proofs.Cell.ReadBack
import SqlGrader.Proofs.Json.ReadBack
import SqlGrader.Proofs.Json.ShortNumbers

/-!
# Problems read back

A problem that has been read is read again from its own text, with the same tests in the same order.
A test is told apart by its kind, which comes first in its text, and the seed of a query by its
shape: rows are an array, tables an object, and no seed has no member. Points and identifiers are in
the range of their texts because they have been read (`Fits`). Main statement:
`parse_render_of_parse`; for short numbers it needs nothing else (`parse_render_of_isShort`).
-/

set_option autoImplicit false

namespace SqlGrader

open Json (Value)
open Json.Value (StandsFor)

/-! ## Rows of a problem -/

def Seed.allRows : Seed → List Row
  | rows list => list
  | tables entries => entries.flatMap (·.2)

def QueryTest.allRows (test : QueryTest) : List Row :=
  (test.seed?.map Seed.allRows).getD [] ++ test.expectedOutput

def TestCase.allRows : TestCase → List Row
  | schema _ => []
  | query test => test.allRows

def Problem.allRows (problem : Problem) : List Row :=
  problem.testCases.flatMap TestCase.allRows

/-! ## Tests -/

theorem ExpectedTable.standsFor_toJson (table : ExpectedTable) :
    StandsFor ExpectedTable.ofJson? 2 table.toJson table := by
  have columns := Value.standsFor_array fun column (_ : column ∈ table.columns) =>
    @Value.standsFor_text 0 column
  constructor
  · exact Value.isReadable_record_iff.2
      (List.forall_mem_cons.2 ⟨rfl, List.forall_mem_singleton.2 columns.readable⟩)
  · unfold ExpectedTable.ofJson? ExpectedTable.toJson
    rw [Value.fields?_record (by simp)]
    simp [List.lookup_cons, Value.required, columns.reads]

namespace Seed

theorem standsFor_toJson {seed : Seed}
    (back : ∀ row ∈ seed.allRows, ∀ cell ∈ row, cell.ReadsBack) :
    StandsFor ofJson? 3 seed.toJson (some seed) := by
  cases seed with
  | rows list =>
    have written : StandsFor Row.listOfJson? 2 (Row.listToJson list) list :=
      Row.standsFor_listToJson back
    constructor
    · exact Value.isReadable_mono (by decide) written.readable
    · have shape : ofJson? (Row.listToJson list) =
          (Row.listOfJson? (Row.listToJson list)).map fun list => some (rows list) := rfl
      rw [toJson, shape, written.reads, Option.map_some]
  | tables entries =>
    have written : ∀ entry ∈ entries,
        StandsFor Row.listOfJson? 2 (Row.listToJson entry.2) entry.2 := fun entry member =>
      Row.standsFor_listToJson fun row inside =>
        back row (List.mem_flatMap.2 ⟨entry, member, inside⟩)
    constructor
    · refine Value.isReadable_record_iff.2 (List.forall_mem_map.2 ?_)
      exact fun entry member => (written entry member).readable
    · have tables : (entries.map fun entry => (some entry.1, Row.listToJson entry.2)).mapM
          tableOfJson? = some (entries.map id) :=
        Value.mapM_map_eq_some fun entry member => by
          simp [tableOfJson?, (written entry member).reads]
      simp [toJson, Value.record_eq, ofJson?, Function.comp_def, tables]

end Seed

namespace TestCase

/-- The kind of a test comes off its record. -/
theorem untagged?_record {tag : Value} {members : List (String × Value)}
    (untagged : "type" ∉ members.map Prod.fst) :
    untagged? (.record (("type", tag) :: members)) = some (tag, .record members) := by
  have others : ∀ member ∈ members, member.1 ≠ "type" := fun member inside same =>
    untagged (List.mem_map.2 ⟨member, inside, same⟩)
  have none? : (members.map fun member => (some member.1, member.2)).filter
      (·.1 = some "type") = [] := by
    rw [List.filter_eq_nil_iff, List.forall_mem_map]
    exact fun member inside => by simp [others member inside]
  have all : (members.map fun member => (some member.1, member.2)).filter
      (·.1 ≠ some "type") = members.map fun member => (some member.1, member.2) := by
    rw [List.filter_eq_self, List.forall_mem_map]
    exact fun member inside => by simp [others member inside]
  simp only [untagged?, Value.record_eq, List.map_cons, List.filter_cons, decide_true, if_true,
    none?, ne_eq, not_true_eq_false, decide_false, all, Bool.false_eq_true, if_false]

theorem isReadable_tagged {kind : String} {members : List (String × Value)}
    (readable : (Value.record members).isReadable 4 = true) :
    (Value.record (("type", .text kind) :: members)).isReadable 4 = true :=
  Value.isReadable_record_iff.2
    (List.forall_mem_cons.2 ⟨rfl, Value.isReadable_record_iff.1 readable⟩)

end TestCase

namespace SchemaTest

def members (test : SchemaTest) : List (String × Value) :=
  [("name", .text test.name), ("description", .text test.description),
   ("expectedTables", .array (test.expectedTables.map ExpectedTable.toJson)),
   ("points", .ofNat test.points)]

theorem standsFor_members {test : SchemaTest} (small : test.points < UInt32.size) :
    StandsFor ofJson? 4 (.record test.members) test := by
  have tables := Value.standsFor_array fun table (_ : table ∈ test.expectedTables) =>
    table.standsFor_toJson
  have points := @Value.standsFor_word 3 _ small
  constructor
  · refine Value.isReadable_record_iff.2 ?_
    simp only [members, List.forall_mem_cons]
    exact ⟨rfl, rfl, tables.readable, points.readable, List.forall_mem_nil _⟩
  · unfold ofJson? members
    rw [Value.fields?_record (by simp)]
    simp [List.lookup_cons, Value.required, Value.optional, tables.reads, points.reads]

end SchemaTest

namespace QueryTest

def members (test : QueryTest) : List (String × Value) :=
  [("name", .text test.name), ("description", .text test.description), ("query", .text test.query)]
    ++ (test.seed?.map fun seed => ("seedData", seed.toJson)).toList
    ++ [("expectedOutput", Row.listToJson test.expectedOutput), ("points", .ofNat test.points)]

theorem standsFor_members {test : QueryTest} (small : test.points < UInt32.size)
    (back : ∀ row ∈ test.allRows, ∀ cell ∈ row, cell.ReadsBack) :
    StandsFor ofJson? 4 (.record test.members) test := by
  obtain ⟨name, description, query, seed?, expectedOutput, points⟩ := test
  have expected : StandsFor Row.listOfJson? 2 (Row.listToJson expectedOutput) expectedOutput :=
    Row.standsFor_listToJson fun row member => back row (List.mem_append_right _ member)
  have expectedReadable := Value.isReadable_mono (Nat.le_succ 2) expected.readable
  have points := @Value.standsFor_word 3 _ small
  cases seed? with
  | none =>
    constructor
    · refine Value.isReadable_record_iff.2 ?_
      simp only [members, Option.map_none, Option.toList_none, List.append_nil, List.cons_append,
        List.nil_append, List.forall_mem_cons]
      exact ⟨rfl, rfl, rfl, expectedReadable, points.readable, List.forall_mem_nil _⟩
    · unfold ofJson? members
      rw [Value.fields?_record (by simp)]
      simp [List.lookup_cons, Value.required, Value.optional, expected.reads, points.reads]
  | some seed =>
    have seeded : StandsFor Seed.ofJson? 3 seed.toJson (some seed) :=
      Seed.standsFor_toJson fun row member => back row (List.mem_append_left _ member)
    constructor
    · refine Value.isReadable_record_iff.2 ?_
      simp only [members, Option.map_some, Option.toList_some, List.cons_append,
        List.nil_append, List.forall_mem_cons]
      exact ⟨rfl, rfl, rfl, seeded.readable, expectedReadable, points.readable,
        List.forall_mem_nil _⟩
    · unfold ofJson? members
      rw [Value.fields?_record (by simp)]
      simp [List.lookup_cons, Value.required, Value.optional, seeded.reads, expected.reads,
        points.reads]

end QueryTest

namespace TestCase

theorem standsFor_toJson {test : TestCase} (small : test.points < UInt32.size)
    (back : ∀ row ∈ test.allRows, ∀ cell ∈ row, cell.ReadsBack) :
    StandsFor ofJson? 4 test.toJson test := by
  cases test with
  | schema test =>
    have written := SchemaTest.standsFor_members small
    have readable := @isReadable_tagged "schema" _ written.readable
    refine ⟨readable, ?_⟩
    change ofJson? (.record (("type", .text "schema") :: test.members)) = _
    rw [ofJson?, if_pos (Value.isReadable_mono (by decide) readable),
      untagged?_record (by simp [SchemaTest.members])]
    change (SchemaTest.ofJson? _).map schema = _
    rw [written.reads, Option.map_some]
  | query test =>
    have written := QueryTest.standsFor_members small back
    have readable := @isReadable_tagged "query" _ written.readable
    refine ⟨readable, ?_⟩
    change ofJson? (.record (("type", .text "query") :: test.members)) = _
    rw [ofJson?, if_pos (Value.isReadable_mono (by decide) readable),
      untagged?_record (by
        cases test with | mk _ _ _ seed? => cases seed? <;> simp [QueryTest.members])]
    change (QueryTest.ofJson? _).map query = _
    rw [written.reads, Option.map_some]

end TestCase

theorem Difficulty.standsFor_name (difficulty : Difficulty) :
    StandsFor Difficulty.ofJson? 5 (.text difficulty.name) difficulty := by
  cases difficulty <;> exact ⟨rfl, rfl⟩

/-! ## What has been read -/

/-- What every test that is read keeps to: points of 32 bits, and rows without infinite numbers. -/
structure TestCase.Fits (test : TestCase) : Prop where
  points_lt : test.points < UInt32.size
  allFinite : Row.AllFinite test.allRows

theorem SchemaTest.fits_of_ofJson? {v : Value} {test : SchemaTest}
    (read : SchemaTest.ofJson? v = some test) : (TestCase.schema test).Fits := by
  unfold SchemaTest.ofJson? at read
  split at read
  · simp only [Option.bind_eq_bind, Option.bind_eq_some_iff, Option.pure_def,
      Option.some.injEq] at read
    obtain ⟨name, -, description, -, tables, -, points, word, rfl⟩ := read
    obtain ⟨w, word⟩ := Value.exists_of_required word
    exact ⟨Value.lt_of_asWord? word, List.forall_mem_nil _⟩
  · cases read

theorem Seed.allFinite_of_ofJson? {v : Value} {seed : Seed}
    (read : Seed.ofJson? v = some (some seed)) : Row.AllFinite seed.allRows := by
  unfold Seed.ofJson? at read
  split at read
  · cases read
  · obtain ⟨entries, tables, same⟩ := Option.map_eq_some_iff.1 read
    cases same
    have each : ∀ entry ∈ entries, Row.AllFinite entry.2 := by
      refine Value.forall_of_mapM (fun member entry found => ?_) tables
      obtain ⟨key, -, found⟩ := Option.bind_eq_some_iff.1 found
      obtain ⟨rows, listed, found⟩ := Option.bind_eq_some_iff.1 found
      cases found
      exact Row.allFinite_of_listOfJson? listed
    intro row member
    obtain ⟨entry, listed, inside⟩ := List.mem_flatMap.1 member
    exact each entry listed row inside
  · obtain ⟨list, rows, same⟩ := Option.map_eq_some_iff.1 read
    cases same
    exact Row.allFinite_of_listOfJson? rows

theorem QueryTest.fits_of_ofJson? {v : Value} {test : QueryTest}
    (read : QueryTest.ofJson? v = some test) : (TestCase.query test).Fits := by
  unfold QueryTest.ofJson? at read
  split at read
  · simp only [Option.bind_eq_bind, Option.bind_eq_some_iff, Option.pure_def,
      Option.some.injEq] at read
    obtain ⟨name, -, description, -, query, -, seed?, seeded, expected, rows, points, word, rfl⟩ :=
      read
    obtain ⟨w, word⟩ := Value.exists_of_required word
    obtain ⟨list, rows⟩ := Value.exists_of_required rows
    refine ⟨Value.lt_of_asWord? word, fun row member => ?_⟩
    rcases List.mem_append.1 member with inSeed | inExpected
    · cases seed? with
      | none => cases inSeed
      | some seed =>
        obtain ⟨w, found⟩ : ∃ w, Seed.ofJson? w = some (some seed) :=
          Value.exists_of_optional (by simp) seeded
        exact Seed.allFinite_of_ofJson? found row inSeed
    · exact Row.allFinite_of_listOfJson? rows row inExpected
  · cases read

theorem TestCase.fits_of_ofJson? {v : Value} {test : TestCase}
    (read : TestCase.ofJson? v = some test) : test.Fits := by
  unfold TestCase.ofJson? at read
  split at read
  · split at read
    · obtain ⟨found, schema, rfl⟩ := Option.map_eq_some_iff.1 read
      exact SchemaTest.fits_of_ofJson? schema
    · obtain ⟨found, query, rfl⟩ := Option.map_eq_some_iff.1 read
      exact QueryTest.fits_of_ofJson? query
    · cases read
  · cases read

namespace Problem

structure Fits (problem : Problem) : Prop where
  id_lt : problem.id < UInt32.size
  tests : ∀ test ∈ problem.testCases, test.Fits

theorem fits_of_ofJson? {v : Value} {problem : Problem} (read : ofJson? v = some problem) :
    problem.Fits := by
  unfold ofJson? at read
  split at read
  · simp only [Option.bind_eq_bind, Option.bind_eq_some_iff, Option.pure_def,
      Option.some.injEq] at read
    obtain ⟨id, word, title, -, difficulty, -, description, -, requirements, -, hints, -, tests,
      listed, rfl⟩ := read
    obtain ⟨w, word⟩ := Value.exists_of_required word
    obtain ⟨list, listed⟩ := Value.exists_of_required listed
    exact ⟨Value.lt_of_asWord? word,
      Value.forall_of_asList? (fun _ _ => TestCase.fits_of_ofJson?) listed⟩
  · cases read

/-- A problem that fits its text is read back from it, if only its numbers are. -/
theorem standsFor_toJson {problem : Problem} (fits : problem.Fits)
    (back : ∀ row ∈ problem.allRows, ∀ x, Cell.float x ∈ row → Json.ReadsBack x) :
    StandsFor ofJson? 6 problem.toJson problem := by
  have id := @Value.standsFor_word 5 _ fits.id_lt
  have requirements := Value.standsFor_array fun text (_ : text ∈ problem.requirements) =>
    @Value.standsFor_text 4 text
  have hints := Value.standsFor_array fun text (_ : text ∈ problem.hints) =>
    @Value.standsFor_text 4 text
  have difficulty := problem.difficulty.standsFor_name
  have tests : StandsFor (Value.asList? TestCase.ofJson?) 5
      (.array (problem.testCases.map TestCase.toJson)) problem.testCases := by
    refine Value.standsFor_array fun test member => ?_
    have fitting := fits.tests test member
    refine TestCase.standsFor_toJson fitting.points_lt fun row inside cell listed => ?_
    have finite := fitting.allFinite row inside cell listed
    cases cell with
    | float x =>
      exact ⟨finite, back row (List.mem_flatMap.2 ⟨test, member, inside⟩) x listed⟩
    | _ => trivial
  constructor
  · refine Value.isReadable_record_iff.2 ?_
    simp only [List.forall_mem_cons]
    exact ⟨id.readable, rfl, rfl, rfl, requirements.readable, hints.readable, tests.readable,
      List.forall_mem_nil _⟩
  · unfold ofJson? toJson
    rw [Value.fields?_record (by simp)]
    simp [List.lookup_cons, Value.required, Value.optional, id.reads, requirements.reads,
      hints.reads, tests.reads, difficulty.reads]

theorem parse_render {problem : Problem} (fits : problem.Fits)
    (back : ∀ row ∈ problem.allRows, ∀ x, Cell.float x ∈ row → Json.ReadsBack x) :
    parse problem.toJson.render = .ok problem := by
  have written := standsFor_toJson fits back
  rw [parse, Json.parse?_render written.readable, Option.bind_some, written.reads]

theorem fits_of_parse {text : String} {problem : Problem} (read : parse text = .ok problem) :
    problem.Fits := by
  have found : (Json.parse? text).bind ofJson? = some problem := by
    unfold parse at read
    split at read
    · cases read
    · rename_i some?
      cases read
      exact some?
  obtain ⟨v, -, taken⟩ := Option.bind_eq_some_iff.1 found
  exact fits_of_ofJson? taken

/-- A problem whose numbers are short is read again from its own text as the same problem. -/
theorem parse_render_of_isShort {text : String} {problem : Problem}
    (read : parse text = .ok problem)
    (short : ∀ row ∈ problem.allRows, ∀ x, Cell.float x ∈ row → Json.IsShort x) :
    parse problem.toJson.render = .ok problem :=
  parse_render (fits_of_parse read) fun row member x listed =>
    Json.readsBack_of_isShort (short row member x listed)

/-- A problem that has been read is read again from its own text as the same problem, if each of the
numbers in its rows is read back from its written form. -/
theorem parse_render_of_parse {text : String} {problem : Problem} (read : parse text = .ok problem)
    (back : ∀ row ∈ problem.allRows, ∀ x, Cell.float x ∈ row → Json.ReadsBack x) :
    parse problem.toJson.render = .ok problem :=
  parse_render (fits_of_parse read) back

/-- Seeds of every shape, a table that is seeded twice, and the integer two beside the number two.
The kind of a test comes last in a record, or first in an array. -/
theorem parse_render_of_parse_seeds :
    let rows : Value := .array [.array [.text "x"], .array []]
    let tables : Value := .record [("t", .array [.array [.number "2", .null]]), ("u", .array []),
      ("t", .array [.array [.number "2.0"], .array [.number "-0.0"]])]
    let file : Value := .record [("title", .text "seeds"), ("id", .number "7"),
      ("difficulty", .text "Easy"), ("testCases", .array [
        .array [.text "schema", .text "a", .text "", .array [.record [("name", .text "t"),
          ("columns", .array [.text "id"])]], .number "10"],
        .record [("name", .text "b"), ("query", .text "SELECT 1"), ("points", .number "20"),
          ("seedData", tables), ("expectedOutput", .array [.array [.number "149.50"]]),
          ("type", .text "query")],
        .array [.text "query", .text "c", .text "", .text "SELECT 2", rows, rows, .number "5"],
        .array [.text "query", .text "d", .text "", .text "SELECT 3", .null, rows, .number "0"]])]
    let two := Binary64.ofNat 2
    let price := Binary64.ofDecimal false ⟨1495, -1⟩
    let problem : Problem := ⟨7, "seeds", .easy, "", [], [],
      [.schema ⟨"a", "", [⟨"t", ["id"]⟩], 10⟩,
       .query ⟨"b", "", "SELECT 1", some (.tables [("t", [[.integer 2, .null]]), ("u", []),
         ("t", [[.float two], [.float (.zero true)]])]), [[.float price]], 20⟩,
       .query ⟨"c", "", "SELECT 2", some (.rows [[.text "x"], []]), [[.text "x"], []], 5⟩,
       .query ⟨"d", "", "SELECT 3", none, [[.text "x"], []], 0⟩]⟩
    parse file.render = .ok problem ∧
      (∀ row ∈ problem.allRows, ∀ x, Cell.float x ∈ row → Json.ReadsBack x) ∧
      parse problem.toJson.render = .ok problem := by
  intro rows tables file two price problem
  have taken : ofJson? file = some problem := by decide +kernel
  have read : parse file.render = .ok problem := by
    rw [parse, @Json.parse?_render file 7 (by decide +kernel), Option.bind_some, taken]
  have cells : ∀ row ∈ problem.allRows, ∀ cell ∈ row, cell.ReadsBack := by decide +kernel
  have back : ∀ row ∈ problem.allRows, ∀ x, Cell.float x ∈ row → Json.ReadsBack x :=
    fun row member x listed => (cells row member (.float x) listed).2
  exact ⟨read, back, parse_render_of_parse read back⟩

end Problem

end SqlGrader
