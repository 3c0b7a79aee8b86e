import SqlGrader.Proofs.Grader.Isolation
import SqlGrader.Proofs.Session.Fragments

/-!
# Built tables

The script of a schema, read back. It comes apart into the statements of its tables
(`split_ddl`), and the first statement of a table whose name is a word creates the table, as far as
it lexes (`parse_creation`). Names and types go into the script as they are, so that another name
can create another table, and a type can hold a statement of its own. Main statement:
`loadSchema_builds`.
-/

set_option autoImplicit false

namespace SqlGrader

open SqlGrader.Lexer SqlGrader.Parser

/-! ## The script of a schema -/

namespace Table

/-- The first line of the definition of a table. -/
def opening (table : Table) : List Char :=
  "CREATE TABLE ".toList ++ (table.name.toList ++ " (".toList)

/-- The columns in the definition of a table, with what stands around them. -/
def inner (table : Table) : List Char :=
  '\n' :: ((String.intercalate ",\n" (table.columns.map columnDdl)).toList ++ "\n)".toList)

theorem toList_ddl (table : Table) :
    table.ddl.toList = table.opening ++ table.inner ++ ';' :: ['\n', '\n'] := by
  unfold ddl opening inner
  simp

theorem fragments_blank_lines (rest : List Char) :
    Script.fragments ('\n' :: '\n' :: rest) = Script.fragments rest := by
  have blank : ∀ rest, Script.fragments ([] ++ '\n' :: rest) = Script.fragments rest :=
    Script.fragments_line_append (by simp) (by simp) (.inl rfl)
  exact (blank ('\n' :: rest)).trans (blank rest)

theorem fragments_ddl (table : Table) :
    Script.fragments table.ddl.toList = Script.fragments (table.opening ++ table.inner) := by
  rw [toList_ddl, Script.fragments_append_semicolon, fragments_blank_lines, Script.fragments_nil,
    List.append_nil]

theorem fragments_ddl_append (table : Table) (rest : List Char) :
    Script.fragments (table.ddl.toList ++ rest) =
      Script.fragments table.ddl.toList ++ Script.fragments rest := by
  have whole : table.ddl.toList ++ rest =
      table.opening ++ table.inner ++ ';' :: ('\n' :: '\n' :: rest) := by
    rw [toList_ddl]
    simp
  rw [fragments_ddl, whole, Script.fragments_append_semicolon, fragments_blank_lines]

end Table

/-- The statements of a schema are those of its tables. -/
theorem Schema.split_ddl (schema : Schema) :
    Script.split schema.ddl = schema.tables.flatMap fun table => Script.split table.ddl := by
  have joined : ∀ tables : List Table,
      Script.fragments (String.join (tables.map Table.ddl)).toList =
        tables.flatMap fun table => Script.fragments table.ddl.toList := by
    intro tables
    induction tables with
    | nil => exact Script.fragments_nil
    | cons table rest ih =>
      rw [List.map_cons, String.join_cons, String.toList_append, Table.fragments_ddl_append, ih,
        List.flatMap_cons]
  have headed : ∀ rest : List Char,
      Script.fragments ("-- Database Schema\n\n".toList ++ rest) = Script.fragments rest := by
    intro rest
    have header : "-- Database Schema\n\n".toList ++ rest =
        "-- Database Schema".toList ++ '\n' :: ([] ++ '\n' :: rest) := by simp
    rw [header, Script.fragments_line_append (by decide) (by decide) (.inr (by decide)),
      Script.fragments_line_append (by simp) (by simp) (.inl rfl)]
  unfold Schema.ddl
  split
  · rename_i none?
    rw [none?]
    decide
  · rw [Script.split_eq, String.toList_append, headed, joined, List.map_flatMap]
    rfl

/-! ## The first statement of a table -/

namespace Table

variable {table : Table}

theorem beginning_opening (word : IsWord table.name) : Script.Beginning table.opening := by
  have apart : ∀ c, c ∉ "CREATE TABLE ".toList → c ∉ " (".toList →
      beginsWord c = false ∧ continuesWord c = false → c ∉ table.opening := by
    intro c front back other member
    rcases List.mem_append.1 member with inFront | member
    · exact front inFront
    · rcases List.mem_append.1 member with inName | inBack
      · exact notMem_of_isWord word other inName
      · exact back inBack
  have last : table.opening.getLast? = some '(' := by
    unfold opening
    simp [List.getLast?_cons]
  refine ⟨⟨⟨'C', rfl, by decide⟩, '(', last, by decide⟩, ?_, ?_, ?_⟩
  · exact apart '-' (by decide) (by decide) (by decide)
  · exact apart '\n' (by decide) (by decide) (by decide)
  · exact apart ';' (by decide) (by decide) (by decide)

/-- The first statement of a table whose name is a word begins with the first line of its
definition. -/
theorem exists_split_ddl (word : IsWord table.name) :
    ∃ first others more, Script.split table.ddl = first :: others ∧
      first.toList = table.opening ++ more := by
  obtain ⟨more, others, cut, -⟩ :=
    Script.exists_fragments_append (beginning_opening word) table.inner
  refine ⟨_, others.map String.ofList, more, ?_, String.toList_ofList⟩
  rw [Script.split_eq, fragments_ddl, cut]
  rfl

/-- A statement that begins with the first line of the definition of a table creates the table,
whatever follows, if only it lexes. -/
theorem parse_creation (word : IsWord table.name) {fragment : String} {more : List Char}
    (begins : fragment.toList = table.opening ++ more)
    (lexes : ∃ tokens, tokenize fragment = .ok tokens) :
    ∃ named, Statement.parse fragment = .ok (.createTable named) ∧
      Store.key named = Store.key table.name := by
  obtain ⟨named, read, same⟩ := exists_name table.name.toList
  rw [String.ofList_toList] at same
  refine ⟨named, (Statement.parse_eq_ok_iff (by simp)).2 ?_, same⟩
  obtain ⟨tokens, lexes⟩ := lexes
  obtain ⟨spans, whole, lexed, -⟩ := tokenize_eq_ok_iff.1 lexes
  have create : Reads (some ' ') "CREATE".toList (some (wordKind "CREATE".toList)) :=
    reads_word (by decide)
  have table? : Reads (some ' ') "TABLE".toList (some (wordKind "TABLE".toList)) :=
    reads_word (by decide)
  have front : Lexed more.head? (wordSpans "CREATE".toList ++ (wordSpans "TABLE".toList ++
      (wordSpans table.name.toList ++ [⟨['('], some .leftParen⟩]))) :=
    lexed_wordSpans create (lexed_wordSpans table? (lexed_wordSpans (reads_word word)
      ⟨reads_sign rfl (by simp), trivial⟩))
  have starts : textOf spans = textOf (wordSpans "CREATE".toList ++ (wordSpans "TABLE".toList ++
      (wordSpans table.name.toList ++ [⟨['('], some .leftParen⟩]))) ++ more := by
    rw [whole, begins]
    unfold opening
    simp [wordSpans]
  obtain ⟨rest, rfl⟩ := exists_append_of_lexed starts lexed front
  refine ⟨_, whole, lexed, ?_⟩
  have keywords : wordKind "CREATE".toList = .keyword .CREATE ∧
      wordKind "TABLE".toList = .keyword .TABLE := by decide
  simp only [List.append_assoc, kindsOf_wordSpans, keywords]
  exact .createTable read fun _ => by simp [kindsOf_cons]

/-- Without a semicolon among its names and types, a table drops none. -/
theorem ne_dropTable_of_noCut (noCut : ';' ∉ table.opening ++ table.inner) :
    ∀ sql ∈ Script.split table.ddl, ∀ name ifExists,
      Statement.parse sql ≠ .ok (.dropTable name ifExists) := by
  intro sql member name ifExists parsed
  have beginning : Script.Beginning "CREATE TABLE".toList :=
    ⟨⟨⟨'C', rfl, by decide⟩, 'E', rfl, by decide⟩, by decide, by decide, by decide⟩
  obtain ⟨rest, whole⟩ : ∃ rest, table.opening ++ table.inner = "CREATE TABLE".toList ++ rest := by
    unfold opening
    simp
  obtain ⟨more, others, cut, alone⟩ := Script.exists_fragments_append beginning rest
  rw [Script.split_eq, fragments_ddl, whole, cut,
    alone fun found => noCut (whole ▸ List.mem_append_right _ found)] at member
  obtain rfl := List.mem_singleton.1 member
  have begins : (String.ofList ("CREATE TABLE".toList ++ more)).toList =
      "CREATE".toList ++ ' ' :: ("TABLE".toList ++ more) := by simp
  have reads : Reads (some ' ') "CREATE".toList (some (.keyword .CREATE)) :=
    reads_word (by decide)
  obtain ⟨later, after, read⟩ := body_of_parse begins reads parsed
  have creates : createTable (⟨.keyword .CREATE, 0⟩ :: later) =
      .ok (.dropTable name ifExists, after) := read
  obtain ⟨_, _, _, -, other, -⟩ := createTable_eq_ok_iff.1 creates
  cases other

end Table

/-! ## The tables in the store -/

/-- A table that is there stays there until it is dropped. -/
theorem Statement.isSome_effects {statements : List Statement} {rows? : Option (List Row)}
    (there : rows?.isSome) (kept : ∀ name ifExists, .dropTable name ifExists ∉ statements) :
    (effects statements rows?).isSome := by
  induction statements generalizing rows? with
  | nil => exact there
  | cons first rest ih =>
    refine ih ?_ fun name ifExists member => kept name ifExists (List.mem_cons_of_mem first member)
    cases first with
    | dropTable name ifExists => exact absurd List.mem_cons_self (kept name ifExists)
    | _ => simp [effect, there]

/-- A text that creates a table leaves it there, with whatever follows, until it is dropped. -/
theorem Store.contains_of_created (store : Store) (before : List String) {after : List String}
    {sql named table : String} (created : Statement.parse sql = .ok (.createTable named))
    (same : Store.key named = Store.key table)
    (kept : ∀ later ∈ after, ∀ name ifExists,
      Statement.parse later = .ok (.dropTable name ifExists) → Store.key name ≠ Store.key table) :
    ((before ++ sql :: after).foldl Store.after store).contains table = true := by
  have names : (Statement.createTable named).names table = true := by
    simp [Statement.names, Statement.table?, same]
  rw [Store.contains, rows?_foldl_after, Statement.history_append, Statement.history_cons, created]
  dsimp only
  rw [names, if_pos rfl, Statement.effects, List.foldl_append, List.foldl_cons]
  refine Statement.isSome_effects rfl fun name ifExists member => ?_
  obtain ⟨stated, about⟩ := List.mem_filter.1 member
  obtain ⟨later, inside, parsed⟩ := List.mem_filterMap.1 stated
  have isSame : Store.key table = Store.key name := by
    simpa [Statement.names, Statement.table?] using about
  exact kept later inside name ifExists (eq_ok_of_toOption parsed) isSame.symm

namespace Session

/-- What a strict session carries out is a statement. -/
theorem exists_parse_of_runEach {s : Session} {statements : List String}
    (strict : s.leniency = .strict) (ran : (s.runEach statements).1 = .ok ()) :
    ∀ sql ∈ statements, ∃ statement, Statement.parse sql = .ok statement := by
  induction statements generalizing s with
  | nil =>
    intro sql member
    cases member
  | cons first rest ih =>
    rw [runEach_cons] at ran
    have parsed :
        (s.run first).1 = .ok () → ∃ statement, Statement.parse first = .ok statement := by
      intro carried
      rw [run_strict strict, attempt] at carried
      cases parse : Statement.parse first with
      | ok statement => exact ⟨statement, rfl⟩
      | error e =>
        rw [parse] at carried
        cases carried
    cases step : (s.run first).1 with
    | error e =>
      rw [step] at ran
      cases ran
    | ok =>
      rw [step, run_snd] at ran
      intro sql member
      rcases List.mem_cons.1 member with rfl | member
      · exact parsed step
      · exact ih (s := { s with store := s.store.after first }) strict ran sql member

end Session

namespace Grader

/-- A schema that is loaded without an error builds each of its tables whose name is a word and
which no later statement of its script drops; in a lenient session the first statement of the table
has to lex, too. The name is the one by which schemas are compared. -/
theorem loadSchema_builds {g : Grader} {schema : Schema} {count : Nat}
    (loaded : (g.loadSchema schema).1 = .ok count) {earlier later : List Table} {table : Table}
    (cut : schema.tables = earlier ++ table :: later) (word : IsWord table.name)
    (lexes : g.session.leniency = .lenient → ∀ first,
      (Script.split table.ddl).head? = some first → ∃ tokens, tokenize first = .ok tokens)
    (kept : ∀ sql ∈ (Script.split table.ddl).tail ++
        later.flatMap fun other => Script.split other.ddl,
      ∀ name ifExists, Statement.parse sql = .ok (.dropTable name ifExists) →
        Store.key name ≠ Store.key table.name) :
    Unicode.toLower table.name ∈ (g.loadSchema schema).2.session.store.tableNames := by
  obtain ⟨first, others, more, statements, begins⟩ := Table.exists_split_ddl word
  rw [statements, List.tail_cons] at kept
  have ran : (g.session.runEach (Script.split schema.ddl)).1 = .ok () := by
    cases result : (g.session.runEach (Script.split schema.ddl)).1 with
    | ok => rfl
    | error e =>
      have refused : (g.loadSchema schema).1 = .error (.schema e) := by
        simp [loadSchema, Session.runScript_fst, result, Except.map, Except.mapError]
      rw [refused] at loaded
      cases loaded
  have whole : Script.split schema.ddl =
      (earlier.flatMap fun other => Script.split other.ddl) ++
        first :: (others ++ later.flatMap fun other => Script.split other.ddl) := by
    rw [Schema.split_ddl, cut, List.flatMap_append, List.flatMap_cons, statements,
      List.cons_append]
  have firstLexes : ∃ tokens, tokenize first = .ok tokens := by
    cases leniency : g.session.leniency with
    | lenient => exact lexes leniency first (by rw [statements, List.head?_cons])
    | strict =>
      obtain ⟨statement, parsed⟩ :=
        Session.exists_parse_of_runEach leniency ran first (by simp [whole])
      cases lexed : tokenize first with
      | ok tokens => exact ⟨tokens, rfl⟩
      | error e =>
        rw [Statement.parse, lexed] at parsed
        cases parsed
  obtain ⟨named, created, same⟩ := Table.parse_creation word begins firstLexes
  have store : (g.loadSchema schema).2.session.store =
      (Script.split schema.ddl).foldl Store.after g.session.store :=
    congrArg Session.store (Session.runEach_snd_of_ok ran)
  have there := g.session.store.contains_of_created
    (earlier.flatMap fun other => Script.split other.ddl) created same kept
  rw [← whole, ← store] at there
  exact (Store.contains_iff_mem_tableNames _ _).1 there

/-- A keyword as a name, in capital letters, with a column that is dropped as a comment line. The
table behind it drops nothing. -/
theorem loadSchema_builds_order :
    let order : Table := ⟨"ORDER", [⟨"id", "INT", true, false⟩, ⟨"--", "note", false, false⟩]⟩
    let users : Table := ⟨"users", [⟨"id", "INT", true, false⟩]⟩
    let g : Grader := ⟨.start .classroom .lenient .row .builtin, .exact⟩
    "order" ∈ (g.loadSchema ⟨[order, users]⟩).2.session.store.tableNames := by
  intro order users g
  have word : IsWord order.name := by decide
  have lowered : Unicode.toLower order.name = "order" := by decide +kernel
  have kept : ∀ sql ∈ (Script.split order.ddl).tail ++
      [users].flatMap (fun other => Script.split other.ddl),
      ∀ name ifExists, Statement.parse sql = .ok (.dropTable name ifExists) →
        Store.key name ≠ Store.key order.name := by
    have alone : (Script.split order.ddl).tail = [] := by decide +kernel
    intro sql member name ifExists parsed
    rw [alone, List.nil_append, List.flatMap_singleton] at member
    exact absurd parsed (users.ne_dropTable_of_noCut (by decide +kernel) sql member name ifExists)
  have lexes : ∀ first, (Script.split order.ddl).head? = some first →
      ∃ tokens, tokenize first = .ok tokens := by
    have read : ((Script.split order.ddl).head?.bind fun first =>
        (tokenize first).toOption).isSome = true := by decide +kernel
    intro first begins
    obtain ⟨tokens, found⟩ := Option.isSome_iff_exists.1 read
    rw [begins, Option.bind_some] at found
    exact ⟨tokens, tokenize_of_toOption found⟩
  have counted : (g.loadSchema ⟨[order, users]⟩).1.toOption = some 2 := by decide +kernel
  rw [← lowered]
  exact loadSchema_builds (eq_ok_of_toOption counted) (show _ = [] ++ order :: [users] from rfl)
    word (fun _ => lexes) kept

/-- Tables that keep the rules and are missing after their schema has been loaded without an error:
one with a name of two words, one with an open quote in a type, which a lenient session passes
over, and one with a type that drops the table. -/
theorem not_always_loadSchema_builds :
    let strict : Grader := ⟨.start .empty .strict .row .builtin, .exact⟩
    let lenient : Grader := ⟨.start .empty .lenient .row .builtin, .exact⟩
    let twoWords : Schema := ⟨[⟨"line items", [⟨"id", "INT", true, false⟩]⟩]⟩
    let openQuote : Schema := ⟨[⟨"t", [⟨"id", "'", true, false⟩]⟩]⟩
    let dropping : Schema :=
      ⟨[⟨"t", [⟨"id", "INT); DROP TABLE t; CREATE TABLE u (", true, false⟩]⟩]⟩
    (Schema.empty.addTables twoWords.tables = (.ok (), twoWords) ∧
      (strict.loadSchema twoWords).1.toOption = some 1 ∧
      ∃ listed ∈ twoWords.normalizedTables,
        (strict.loadSchema twoWords).2.session.store.contains listed.1 = false) ∧
    (Schema.empty.addTables openQuote.tables = (.ok (), openQuote) ∧
      (lenient.loadSchema openQuote).1.toOption = some 1 ∧
      ∃ listed ∈ openQuote.normalizedTables,
        (lenient.loadSchema openQuote).2.session.store.contains listed.1 = false) ∧
    (Schema.empty.addTables dropping.tables = (.ok (), dropping) ∧
      (strict.loadSchema dropping).1.toOption = some 3 ∧
      ∃ listed ∈ dropping.normalizedTables,
        (strict.loadSchema dropping).2.session.store.contains listed.1 = false) := by
  decide +kernel

end Grader

end SqlGrader
