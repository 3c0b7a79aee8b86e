import SqlGrader.Cell.Json
import SqlGrader.Proofs.Binary64.Overflow
import SqlGrader.Proofs.Session.CountedRows

/-!
# Finite cells

Statements, scripts and resets lead to no other states than single statements do (`exists_runs`). In
each of them a cell is a text, an integer or a number, and the number is finite unless a text had so
many digits that they are too large for the format: they are stored as an infinite number. Main
statement: `acts_cells`.
-/

set_option autoImplicit false

namespace SqlGrader

open SqlGrader.Lexer SqlGrader.Parser

/-! ## Steps of a session -/

namespace Session

/-- What can be done to the store of a session. -/
inductive Step where
  | run (sql : String)
  | script (text : String)
  | reset

def Step.texts : Step → List String
  | run sql => [sql]
  | script text => Script.split text
  | reset => []

def act (s : Session) : Step → Session
  | .run sql => (s.run sql).2
  | .script text => (s.runScript text).2
  | .reset => s.reset

def acts (s : Session) (steps : List Step) : Session :=
  steps.foldl act s

theorem runs_append (s : Session) (earlier later : List String) :
    s.runs (earlier ++ later) = (s.runs earlier).runs later := by
  simp [runs]

/-- Statements that are run until one fails come to those in front of it. -/
theorem exists_runEach (s : Session) (sqls : List String) :
    ∃ carried, carried <+: sqls ∧ (s.runEach sqls).2 = s.runs carried := by
  cases report : (s.runEach sqls).1 with
  | ok =>
    refine ⟨sqls, List.prefix_refl sqls, ?_⟩
    rw [runEach_snd_of_ok report, runs_eq]
  | error e =>
    obtain ⟨before, failing, after, rfl, passed, -, same⟩ := exists_failing_of_error report
    refine ⟨before, List.prefix_append before _, ?_⟩
    rw [same, runEach_snd_of_ok passed, runs_eq]

variable (catalog : Catalog) (leniency : Leniency) (scope : MatchScope) (regex : Regex.Library)

theorem reset_runs (sqls : List String) :
    ((start catalog leniency scope regex).runs sqls).reset =
      start catalog leniency scope regex := by
  rw [runs_eq]
  rfl

/-- What steps lead to, statements of theirs lead to as well. -/
theorem exists_runs (steps : List Step) :
    ∃ sqls, (∀ sql ∈ sqls, ∃ step ∈ steps, sql ∈ step.texts) ∧
      (start catalog leniency scope regex).acts steps =
        (start catalog leniency scope regex).runs sqls := by
  induction steps using List.reverseRecOn with
  | nil => exact ⟨[], by simp, rfl⟩
  | append_singleton earlier last ih =>
    obtain ⟨sqls, among, same⟩ := ih
    have acted : (start catalog leniency scope regex).acts (earlier ++ [last]) =
        ((start catalog leniency scope regex).runs sqls).act last := by
      rw [← same]
      simp [acts]
    have amongAll : ∀ more, (∀ sql ∈ more, sql ∈ last.texts) →
        ∀ sql ∈ sqls ++ more, ∃ step ∈ earlier ++ [last], sql ∈ step.texts := by
      intro more inLast sql member
      rcases List.mem_append.1 member with before | here
      · obtain ⟨step, isStep, isText⟩ := among sql before
        exact ⟨step, List.mem_append_left _ isStep, isText⟩
      · exact ⟨last, by simp, inLast sql here⟩
    cases last with
    | run sql =>
      refine ⟨sqls ++ [sql], amongAll [sql] fun _ => id, ?_⟩
      rw [acted, runs_append]
      rfl
    | script text =>
      obtain ⟨carried, front, ran⟩ :=
        exists_runEach ((start catalog leniency scope regex).runs sqls) (Script.split text)
      refine ⟨sqls ++ carried, amongAll carried fun _ member => front.subset member, ?_⟩
      rw [acted, runs_append, ← ran]
      rfl
    | reset =>
      refine ⟨[], by simp, ?_⟩
      rw [acted]
      exact reset_runs catalog leniency scope regex sqls

end Session

/-! ## Huge numbers -/

namespace Lexer

/-- A text with a number of at least `2 ^ 1024 - 2 ^ 970` among its tokens. -/
def HasHugeNumber (sql : String) : Prop :=
  ∃ spans, textOf spans = sql.toList ∧ Lexed none spans ∧ ∃ span ∈ spans, ∃ x d,
    span.kind? = some (.float x) ∧ Decimal.read? span.text = some d ∧ d.IsHuge

/-- The number of a token is that of its digits: it is infinite if they are huge, and finite
otherwise. -/
theorem Lexed.float_cases {next? : Option Char} {spans : List Span} {span : Span} {x : Binary64}
    (h : Lexed next? spans) (member : span ∈ spans) (made : span.kind? = some (.float x)) :
    ∃ d, Decimal.read? span.text = some d ∧
      (x = .infinite false ∧ d.IsHuge ∨ x.isFinite = true ∧ ¬ d.IsHuge) := by
  obtain ⟨behind?, reads⟩ := h.exists_reads member
  rw [made] at reads
  obtain ⟨c, rest, text, digit, spelled⟩ := reads.numberKind?_eq (.float x)
  obtain ⟨d, read, rounded⟩ := exists_decimal_of_numberKind? digit spelled
  refine ⟨d, text ▸ read, ?_⟩
  rw [← d.toMagnitude?_eq_none_iff, rounded, Binary64.ofDecimal]
  cases d.toMagnitude? with
  | none => exact .inl ⟨rfl, rfl⟩
  | some m => exact .inr ⟨rfl, by simp⟩

theorem mem_kindsOf {spans : List Span} {kind : TokenKind} :
    kind ∈ kindsOf spans ↔ ∃ span ∈ spans, span.kind? = some kind :=
  List.mem_filterMap

/-- A text has a huge number if one of its tokens is an infinite one. -/
theorem hasHugeNumber_iff {sql : String} :
    HasHugeNumber sql ↔ (tokenize sql).toOption.any
      (fun tokens => tokens.any fun t => t.kind = .float (.infinite false)) = true := by
  simp only [Option.any_eq_true, List.any_eq_true, decide_eq_true_eq]
  constructor
  · rintro ⟨spans, whole, lexed, span, isSpan, x, d, made, read, huge⟩
    obtain ⟨d', read', ⟨rfl, -⟩ | ⟨-, notHuge⟩⟩ := lexed.float_cases isSpan made
    · have isKind : .float (.infinite false) ∈ (tokensOf 0 spans).map (·.kind) := by
        rw [map_kind_tokensOf]
        exact List.mem_append_left _ (mem_kindsOf.2 ⟨span, isSpan, made⟩)
      refine ⟨tokensOf 0 spans, ?_, List.mem_map.1 isKind⟩
      rw [tokenize_eq_ok_iff.2 ⟨spans, whole, lexed, rfl⟩]
      rfl
    · obtain rfl : d = d' := Option.some.inj (read.symm.trans read')
      exact absurd huge notHuge
  · rintro ⟨tokens, lexes, t, isToken, kind⟩
    obtain ⟨spans, whole, lexed, rfl⟩ := tokenize_eq_ok_iff.1 (eq_ok_of_toOption lexes)
    have isKind : .float (.infinite false) ∈ kindsOf spans ++ [.eof] := by
      rw [← map_kind_tokensOf 0 spans, ← kind]
      exact List.mem_map_of_mem isToken
    obtain ⟨span, isSpan, made⟩ := mem_kindsOf.1 (by simpa using isKind)
    obtain ⟨d, read, ⟨-, huge⟩ | ⟨finite, -⟩⟩ := lexed.float_cases isSpan made
    · exact ⟨spans, whole, lexed, span, isSpan, _, d, made, read, huge⟩
    · cases finite

instance (sql : String) : Decidable (HasHugeNumber sql) :=
  decidable_of_iff _ hasHugeNumber_iff.symm

end Lexer

/-! ## Stored cells -/

/-- A cell that can be stored, with an infinite number in it only if `huge` holds. -/
inductive Cell.IsStored (huge : Prop) : Cell → Prop where
  | text (s : String) : IsStored huge (.text s)
  | integer (i : Int64) : IsStored huge (.integer i)
  | finite {x : Binary64} (isFinite : x.isFinite = true) : IsStored huge (.float x)
  | infinite (negative : Bool) (isHuge : huge) : IsStored huge (.float (.infinite negative))

namespace Cell

variable {huge : Prop} {cell : Cell}

theorem IsStored.mono {more : Prop} (h : cell.IsStored huge) (implies : huge → more) :
    cell.IsStored more := by
  cases h with
  | text s => exact .text s
  | integer i => exact .integer i
  | finite isFinite => exact .finite isFinite
  | infinite negative isHuge => exact .infinite negative (implies isHuge)

/-- Of what is stored only the infinite numbers have no form in JSON. -/
theorem IsStored.toJson_eq_null_iff (h : cell.IsStored huge) :
    cell.toJson = .null ↔ ∃ negative, cell = .float (.infinite negative) := by
  cases h with
  | text s => simp [toJson, Json.Value.text]
  | integer i => simp [toJson, Json.Value.ofInt]
  | @finite x isFinite =>
    refine iff_of_false (by simp [toJson, Json.Value.ofBinary64, isFinite]) ?_
    rintro ⟨negative, same⟩
    cases same
    cases isFinite
  | infinite negative => exact iff_of_true rfl ⟨negative, rfl⟩

theorem IsStored.toJson_ne_null (h : cell.IsStored huge) (notHuge : ¬ huge) :
    cell.toJson ≠ .null := by
  intro null
  obtain ⟨negative, rfl⟩ := h.toJson_eq_null_iff.1 null
  cases h with
  | finite isFinite => cases isFinite
  | infinite _ isHuge => exact notHuge isHuge

end Cell

theorem Literal.isStored_bare (huge : Prop) (word : String) :
    (bare word).toCell.IsStored huge := by
  rw [toCell]
  split
  · exact .integer _
  · split
    · split
      · rename_i isFinite
        exact .finite isFinite
      · exact .text word
    · exact .text word

/-- A number with a sign is stored as that, and is finite unless it is huge. -/
theorem Lexer.Lexed.isStored_float {next? : Option Char} {spans : List Span} {x : Binary64}
    (h : Lexed next? spans) (member : .float x ∈ kindsOf spans) {huge : Prop}
    (isHuge : x = .infinite false → huge) :
    (Cell.float x).IsStored huge ∧ (Cell.float x.neg).IsStored huge := by
  obtain ⟨span, isSpan, made⟩ := mem_kindsOf.1 member
  obtain ⟨d, -, ⟨rfl, -⟩ | ⟨finite, -⟩⟩ := h.float_cases isSpan made
  · exact ⟨.infinite false (isHuge rfl), .infinite true (isHuge rfl)⟩
  · refine ⟨.finite finite, .finite ?_⟩
    cases x with
    | finite negative m => rfl
    | _ => cases finite

/-- What a literal is stored as is finite, unless it stands in a text with a huge number. -/
theorem Statement.HasLiteral.isStored {sql : String} {value : Literal}
    (h : Statement.HasLiteral sql value) : value.toCell.IsStored (HasHugeNumber sql) := by
  obtain ⟨kinds, part, ⟨spans, whole, lexed, rfl⟩, inside, read⟩ := h
  have number : ∀ x, .float x ∈ part → (Cell.float x).IsStored (HasHugeNumber sql) ∧
      (Cell.float x.neg).IsStored (HasHugeNumber sql) := by
    intro x member
    refine lexed.isStored_float (inside.subset member) ?_
    rintro rfl
    obtain ⟨span, isSpan, made⟩ := mem_kindsOf.1 (inside.subset member)
    obtain ⟨d, decimal, ⟨-, huge⟩ | ⟨finite, -⟩⟩ := lexed.float_cases isSpan made
    · exact ⟨spans, whole, lexed, span, isSpan, _, d, made, decimal, huge⟩
    · cases finite
  unfold literalOf? at read
  split at read <;> cases read
  case h_1 s => exact .text s
  case h_3 x => exact (number x (by simp)).1
  case h_5 x => exact (number x (by simp)).2
  case h_7 x => exact (number x (by simp)).1
  case h_8 word => exact Literal.isStored_bare _ word
  all_goals exact .integer _

/-! ## Answers -/

namespace Database

variable {db : Database} {plan : Plan}

/-- What a plan selects is stored. -/
theorem exists_stored_of_selectedRows {rows : List Row} (selected : db.selectedRows plan = .ok rows)
    {row : Row} (member : row ∈ rows) : ∃ table, row ∈ db.store.rows table := by
  induction plan generalizing rows with
  | scan table =>
    cases selected
    exact ⟨table, member⟩
  | filter input predicate ih =>
    rw [selectedRows] at selected
    cases read : db.selectedRows input with
    | error e => simp [read] at selected
    | ok all =>
      simp only [read] at selected
      split at selected
      · cases selected
      · cases selected
        exact ih read (List.mem_of_mem_filter member)
  | count input ih => exact ih selected member
  | groupCount input column ih => exact ih selected member
  | empty =>
    cases selected
    cases member

/-- What is counted by is null or a cell of a row that is counted. -/
theorem key_cases_of_groupCounts {table : String} {column : ColumnRef} {rows : List Row} {row : Row}
    (isRow : row ∈ (db.groupCounts table column rows).rows) {cell : Cell} (member : cell ∈ row) :
    cell = .null ∨ (∃ n, cell = countCell n) ∨ ∃ row ∈ rows, cell ∈ row := by
  obtain ⟨⟨key, n⟩, isGroup, rfl⟩ := List.mem_map.1 isRow
  rcases List.mem_pair.1 member with rfl | rfl
  · have isKey : cell ∈ (groups (rows.map (groupKey _))).map (·.1) :=
      List.mem_map.2 ⟨(cell, n), isGroup, rfl⟩
    obtain ⟨row, counted, rfl⟩ := List.mem_map.1 ((firstAppearances_groups _).mem_values isKey)
    rcases groupKey_cases _ row with null | isCell
    · exact .inl null
    · exact .inr (.inr ⟨row, counted, isCell⟩)
  · exact .inr (.inl ⟨n, rfl⟩)

/-- A cell of an answer is null, a count or stored. -/
theorem cell_cases_of_evaluate {answer : ResultSet} (evaluated : db.evaluate plan = .ok answer)
    {row : Row} (isRow : row ∈ answer.rows) {cell : Cell} (member : cell ∈ row) :
    cell = .null ∨ (∃ n, cell = countCell n) ∨
      ∃ table, ∃ row ∈ db.store.rows table, cell ∈ row := by
  have stored : ∀ {input rows}, db.selectedRows input = .ok rows → ∀ row ∈ rows, cell ∈ row →
      ∃ table, ∃ row ∈ db.store.rows table, cell ∈ row := by
    intro input rows selected row isSelected isCell
    obtain ⟨table, isStored⟩ := exists_stored_of_selectedRows selected isSelected
    exact ⟨table, row, isStored, isCell⟩
  cases plan with
  | scan table =>
    cases evaluated
    exact .inr (.inr ⟨table, row, isRow, member⟩)
  | filter input predicate =>
    obtain ⟨rows, selected, rfl⟩ := exists_of_map_eq_ok evaluated
    exact .inr (.inr (stored selected row isRow member))
  | count input =>
    obtain ⟨rows, selected, rfl⟩ := exists_of_map_eq_ok evaluated
    obtain rfl := List.mem_singleton.1 isRow
    exact .inr (.inl ⟨_, List.mem_singleton.1 member⟩)
  | groupCount input column =>
    obtain ⟨rows, selected, rfl⟩ := exists_of_map_eq_ok evaluated
    rcases key_cases_of_groupCounts isRow member with null | count | ⟨row, isSelected, isCell⟩
    · exact .inl null
    · exact .inr (.inl count)
    · exact .inr (.inr (stored selected row isSelected isCell))
  | empty =>
    cases evaluated
    cases isRow

end Database

namespace Session

variable (catalog : Catalog) (leniency : Leniency) (scope : MatchScope) (regex : Regex.Library)

/-- After steps of a new session each cell of a table is what a literal of one of the texts is
stored as. -/
theorem isStored_acts (steps : List Step) (table : String) :
    ∀ row ∈ ((start catalog leniency scope regex).acts steps).store.rows table, ∀ cell ∈ row,
      cell.IsStored (∃ step ∈ steps, ∃ sql ∈ step.texts, HasHugeNumber sql) := by
  intro row isRow cell isCell
  obtain ⟨sqls, among, same⟩ := exists_runs catalog leniency scope regex steps
  rw [same] at isRow
  obtain ⟨sql, ran, value, literal, rfl⟩ :=
    exists_literal_of_runs catalog leniency scope regex sqls table row isRow cell isCell
  obtain ⟨step, isStep, isText⟩ := among sql ran
  exact literal.isStored.mono fun huge => ⟨step, isStep, sql, isText, huge⟩

/-- A cell of an answer is null, or of the kind of the stored cells. -/
theorem cell_cases_of_exec {s : Session} {huge : Prop}
    (stored : ∀ table, ∀ row ∈ s.store.rows table, ∀ cell ∈ row, cell.IsStored huge)
    {sql : String} {answer : ResultSet} (executed : s.exec sql = .ok (some answer)) {row : Row}
    (isRow : row ∈ answer.rows) {cell : Cell} (member : cell ∈ row) :
    cell = .null ∨ cell.IsStored huge := by
  obtain ⟨plan, evaluated⟩ : ∃ plan, s.database.evaluate plan = .ok answer := by
    unfold exec at executed
    split at executed
    · obtain ⟨_, answered, same⟩ := exists_of_map_eq_ok executed
      obtain rfl := Option.some.inj same
      unfold Session.answer at answered
      split at answered
      · cases answered
      · exact ⟨_, answered⟩
    · cases executed
    · split at executed <;> cases executed
  rcases Database.cell_cases_of_evaluate evaluated isRow member with
    null | ⟨n, rfl⟩ | ⟨table, row, isStored, isCell⟩
  · exact .inl null
  · exact .inr (.integer _)
  · exact .inr (stored table row isStored cell isCell)

/-- After any steps of a new session each cell of a table is a text, an integer, a finite number, or
an infinite one, which is the only stored cell that JSON has no form for; there is none if no
statement has a number of at least `2 ^ 1024 - 2 ^ 970`. Then the nulls in the JSON of an answer are
the null cells. -/
theorem acts_cells (steps : List Step) :
    let s := (start catalog leniency scope regex).acts steps
    let huge := ∃ step ∈ steps, ∃ sql ∈ step.texts, HasHugeNumber sql
    (∀ table, ∀ row ∈ s.store.rows table, ∀ cell ∈ row, cell.IsStored huge ∧
      (cell.toJson = .null ↔ ∃ negative, cell = .float (.infinite negative))) ∧
    (¬ huge → ∀ sql answer, s.exec sql = .ok (some answer) → ∀ row ∈ answer.rows, ∀ cell ∈ row,
      (cell.toJson = .null ↔ cell = .null)) := by
  intro s huge
  have stored : ∀ table, ∀ row ∈ s.store.rows table, ∀ cell ∈ row, cell.IsStored huge :=
    isStored_acts catalog leniency scope regex steps
  refine ⟨fun table row isRow cell isCell => ?_, ?_⟩
  · have isStored := stored table row isRow cell isCell
    exact ⟨isStored, isStored.toJson_eq_null_iff⟩
  · intro notHuge sql answer executed row isRow cell isCell
    rcases cell_cases_of_exec stored executed isRow isCell with rfl | isStored
    · exact iff_of_true rfl rfl
    · refine iff_of_false (isStored.toJson_ne_null notHuge) ?_
      rintro rfl
      cases isStored

/-- Cells of all kinds, after a table that is forgotten. -/
theorem acts_cells_reset :
    let steps : List Step := [.run "CREATE TABLE t (id INT)", .run "INSERT INTO t VALUES (9)",
      .reset, .script "CREATE TABLE u (id INT); INSERT INTO u VALUES (-2, 'nan', inf, -1.0), ()"]
    let s := (start .empty .strict .row .builtin).acts steps
    let rows : List Row := [[.integer (-2), .text "nan", .text "inf", .float (.ofInt (-1))], []]
    (¬ ∃ step ∈ steps, ∃ sql ∈ step.texts, HasHugeNumber sql) ∧
    s.exec "SELECT * FROM u" = .ok (some ⟨["col1", "col2", "col3"], rows⟩) ∧
    ∀ row ∈ rows, ∀ cell ∈ row, cell.toJson ≠ .null := by
  intro steps s rows
  have notHuge : ¬ ∃ step ∈ steps, ∃ sql ∈ step.texts, HasHugeNumber sql := by decide +kernel
  have executed : s.exec "SELECT * FROM u" = .ok (some ⟨["col1", "col2", "col3"], rows⟩) := by
    decide +kernel
  have noNull : ∀ row ∈ rows, ∀ cell ∈ row, cell ≠ .null := by decide +kernel
  refine ⟨notHuge, executed, fun row isRow cell isCell null => noNull row isRow cell isCell ?_⟩
  have shown := acts_cells .empty .strict .row .builtin steps
  exact (shown.2 notHuge _ _ executed row isRow cell isCell).1 null

/-- Not all numbers that are stored are finite: 1 with 309 zeros is stored as an infinite one. -/
theorem not_always_stores_finite :
    ¬ ∀ (catalog : Catalog) (leniency : Leniency) (scope : MatchScope) (regex : Regex.Library)
      (steps : List Step) (table : String), ∀ row ∈
        ((start catalog leniency scope regex).acts steps).store.rows table,
        ∀ cell ∈ row, cell.IsStored False := by
  intro always
  obtain ⟨sql, text⟩ : ∃ sql : String,
      sql.toList = "INSERT INTO t VALUES (1".toList ++ List.replicate 309 '0' ++ [')'] :=
    ⟨String.ofList _, String.toList_ofList⟩
  have parsed : Statement.parse sql = .ok (.insert "t" [[.float (.infinite false)]]) := by
    apply eq_ok_of_toOption
    rw [Statement.parse, tokenize, text]
    decide +kernel
  have isRow : [Cell.float (.infinite false)] ∈ ((start .empty .strict .row .builtin).acts
      [.run "CREATE TABLE t (id INT)", .run sql]).store.rows "t" := by
    simp only [acts, List.foldl, act, run_snd, Store.after, parsed]
    decide +kernel
  cases always _ _ _ _ _ _ _ isRow _ List.mem_cons_self with
  | infinite _ isHuge => exact isHuge
  | finite isFinite => cases isFinite

end Session

end SqlGrader
