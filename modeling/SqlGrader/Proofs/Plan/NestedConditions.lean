import Mathlib.Data.List.Basic
import SqlGrader.Proofs.Like.Cuts
import SqlGrader.Proofs.Plan.SharedRows

/-!
# Conditions that are stronger than others

A text is matched by the pattern that it is, in both forms, so that equality with a text is the
stronger of the two conditions on texts. A pattern without underscores matches in the anchored form
only what it matches in the loose one, so that looking at one column is stronger than looking at
the whole row; and without a known column there is no difference between the two. All this holds
where the library builds the expressions of the patterns; a pattern that it refuses is an error,
while equality with the same text has an answer. Main statement: what follows for the rows that
queries select (`conditions_nest`).
-/

set_option autoImplicit false

namespace SqlGrader

open Regex (Item Occurs TakesFront)

/-! ## Patterns -/

/-- Items at the end may be left out. -/
theorem Regex.TakesFront.of_append {o : Regex.Options} {items more : List Item}
    {before text : List Char} (taken : TakesFront o (items ++ more) before text) :
    TakesFront o items before text := by
  induction items generalizing before text with
  | nil => exact .nil before text
  | cons item items ih =>
    cases taken with
    | char same rest => exact .char same (ih rest)
    | anyChar takes rest => exact .anyChar takes (ih rest)
    | anyRun takes rest => exact .anyRun takes (ih rest)
    | textStart rest => exact .textStart (ih rest)
    | textEnd rest => exact .textEnd (ih rest)

namespace Like

variable {regex : Regex.Library} {anchored : Bool} {pattern text : String}
  {isMatch : String → Bool}

/-- Each item of a pattern takes the character that it stands for. -/
theorem takesFront_self {more : List Item} {before rest : List Char} (text : List Char)
    (behind : TakesFront options more (before ++ text) rest) :
    TakesFront options (text.map (item anchored) ++ more) before (text ++ rest) := by
  induction text generalizing before with
  | nil => simpa using behind
  | cons c text ih =>
    have later := @ih (before ++ [c]) (by simpa using behind)
    rw [List.map_cons, item]
    split
    · exact Regex.takesFront_anyRun_iff.2 ⟨[c], _, rfl, fun d _ => options_dotTakes d, later⟩
    · split
      · exact .anyChar (options_dotTakes c) later
      · exact .char rfl later

theorem occurs_self (text : List Char) : Occurs options (items anchored text) text := by
  have whole := fun more behind => @takesFront_self anchored more [] [] text behind
  simp only [List.append_nil] at whole
  cases anchored with
  | true => exact ⟨[], text, rfl, .textStart (whole [.textEnd] (.textEnd (.nil _ [])))⟩
  | false => exact ⟨[], text, rfl, (whole [] (.nil _ [])).of_append⟩

/-- A text is matched by the pattern that it is, also if it has wildcards. -/
theorem isMatch_self (standard : regex.IsStandard)
    (built : build regex anchored text = .ok isMatch) : isMatch text = true :=
  (isMatch_iff_occurs standard built text).2 (occurs_self text.toList)

/-- Without underscores what can be cut along a pattern holds its pieces in order. -/
theorem occurs_loose_of_anchored {pattern text : List Char} (absent : '_' ∉ pattern)
    (occurs : Occurs options (items true pattern) text) :
    Occurs options (items false pattern) text := by
  have sameItems : pattern.map (item true) = pattern.map (item false) := by
    refine List.map_congr_left fun c member => ?_
    have other : c ≠ '_' := fun same => absent (same ▸ member)
    simp [item, other]
  obtain ⟨before, rest, cut, taken⟩ := occurs
  obtain ⟨rfl, behind⟩ := Regex.takesFront_textStart_iff.1 taken
  rw [sameItems] at behind
  exact ⟨[], rest, cut, behind.of_append⟩

/-- Without underscores the loose form matches whatever either form matches. -/
theorem isMatch_loose (standard : regex.IsStandard) {isLooseMatch : String → Bool}
    (absent : '_' ∉ pattern.toList) (built : build regex anchored pattern = .ok isMatch)
    (loose : build regex false pattern = .ok isLooseMatch) (matched : isMatch text = true) :
    isLooseMatch text = true := by
  rw [isMatch_iff_occurs standard built] at matched
  rw [isMatch_iff_occurs standard loose]
  cases anchored with
  | false => exact matched
  | true => exact occurs_loose_of_anchored absent matched

end Like

/-! ## Rows -/

namespace RowFilter

/-- The cells that a condition on texts looks at. -/
def seenCells (column? : Option Nat) (row : Row) : List Cell :=
  match column? with
  | some index => row[index]?.toList
  | none => row

variable {column? : Option Nat} {row : Row} {value : String} {isMatch : String → Bool}

theorem mem_of_mem_seenCells {cell : Cell} (seen : cell ∈ seenCells column? row) : cell ∈ row := by
  cases column? with
  | none => exact seen
  | some index => exact List.mem_of_getElem? (Option.mem_toList.1 seen)

theorem passes_textEquals_iff :
    (⟨.textEquals value, column?⟩ : RowFilter).passes row = true ↔
      ∃ cell ∈ seenCells column? row, cell.display = value := by
  cases column? <;>
    simp [passes, seenCells, CellTest.holdsOfRow, CellTest.holdsOfCell, Option.any_eq_true]

theorem passes_isMatch_iff :
    (⟨.like isMatch, column?⟩ : RowFilter).passes row = true ↔
      ∃ cell ∈ seenCells column? row, isMatch cell.display = true := by
  cases column? <;>
    simp [passes, seenCells, CellTest.holdsOfRow, CellTest.holdsOfCell, Option.any_eq_true]

/-- Of the same cells, one that is a text is matched if the text is. -/
theorem passes_like_of_textEquals (matched : isMatch value = true)
    (passed : (⟨.textEquals value, column?⟩ : RowFilter).passes row = true) :
    (⟨.like isMatch, column?⟩ : RowFilter).passes row = true := by
  obtain ⟨cell, seen, same⟩ := passes_textEquals_iff.1 passed
  exact passes_isMatch_iff.2 ⟨cell, seen, same ▸ matched⟩

/-- What a condition finds in a column it finds in the row. -/
theorem passes_textEquals_row
    (passed : (⟨.textEquals value, column?⟩ : RowFilter).passes row = true) :
    (⟨.textEquals value, none⟩ : RowFilter).passes row = true := by
  obtain ⟨cell, seen, same⟩ := passes_textEquals_iff.1 passed
  exact passes_textEquals_iff.2 ⟨cell, mem_of_mem_seenCells seen, same⟩

theorem passes_like_row {isLooseMatch : String → Bool}
    (loose : ∀ text, isMatch text = true → isLooseMatch text = true)
    (passed : (⟨.like isMatch, column?⟩ : RowFilter).passes row = true) :
    (⟨.like isLooseMatch, none⟩ : RowFilter).passes row = true := by
  obtain ⟨cell, seen, matched⟩ := passes_isMatch_iff.1 passed
  exact (@passes_isMatch_iff none row isLooseMatch).2
    ⟨cell, mem_of_mem_seenCells seen, loose _ matched⟩

/-- The scope and the table count only by the place of the column. -/
theorem ofPredicate_congr {regex : Regex.Library} {scope scope' : MatchScope} {catalog : Catalog}
    {table table' : String} {predicate : Predicate}
    (same : target? scope catalog table predicate = target? scope' catalog table' predicate) :
    ofPredicate regex scope catalog table predicate =
      ofPredicate regex scope' catalog table' predicate := by
  unfold ofPredicate
  rw [same]

theorem ofPredicate_key (regex : Regex.Library) (scope : MatchScope) (catalog : Catalog)
    (table : String) (predicate : Predicate) :
    ofPredicate regex scope catalog (Store.key table) predicate =
      ofPredicate regex scope catalog table predicate := by
  apply ofPredicate_congr
  simp only [target?, Catalog.columnIndex?, Catalog.columns_key]

end RowFilter

/-! ## Queries -/

namespace Session

variable {s : Session} {table : String} {predicate : Predicate} {rows : List Row}

/-- The query for the rows of a table that meet a condition has these rows as its answer. -/
def Selects (s : Session) (table : String) (predicate : Predicate) (rows : List Row) : Prop :=
  s.answer (Selection.scan ⟨table, some predicate, none⟩) =
    .ok ⟨s.catalog.columns table, rows⟩

/-- A query with a condition that is recognised selects the rows that pass its filter, under all
rules, or fails as the filter does. -/
theorem answer_where (s : Session) (table : String) (recognised : predicate.IsRecognised) :
    s.answer (Selection.scan ⟨table, some predicate, none⟩) =
      (RowFilter.ofPredicate s.regex s.scope s.catalog table predicate).map fun filter =>
        ⟨s.catalog.columns table, (s.store.rows table).filter filter.passes⟩ := by
  let selection : Selection := ⟨table, some predicate, none⟩
  have planned : selection.plan s.leniency =
      .ok (.filter (.scan (Store.key table)) predicate) := by
    cases predicate with
    | unsupported clause => exact absurd rfl (recognised clause)
    | _ => cases s.leniency <;> rfl
  have selected := s.database.selectedRows_filter (Store.key table) predicate
  rw [Store.rows_key] at selected
  have made : RowFilter.ofPredicate s.database.regex s.database.scope s.database.catalog
      (Store.key table) predicate =
        RowFilter.ofPredicate s.regex s.scope s.catalog table predicate :=
    RowFilter.ofPredicate_key s.regex s.scope s.catalog table predicate
  obtain ⟨-, evaluated⟩ := selection.evaluate_of_plan s.database planned
  rw [answer, selection.ofSelect_scan, planned, ← s.catalog.columns_key table]
  simp only
  rw [evaluated, selected, made]
  cases RowFilter.ofPredicate s.regex s.scope s.catalog table predicate <;> rfl

theorem selects_of_ofPredicate {filter : RowFilter} (recognised : predicate.IsRecognised)
    (made : RowFilter.ofPredicate s.regex s.scope s.catalog table predicate = .ok filter) :
    s.Selects table predicate ((s.store.rows table).filter filter.passes) := by
  rw [Selects, s.answer_where table recognised, made]
  rfl

theorem exists_filter_of_selects (recognised : predicate.IsRecognised)
    (selects : s.Selects table predicate rows) : ∃ filter,
      RowFilter.ofPredicate s.regex s.scope s.catalog table predicate = .ok filter ∧
      rows = (s.store.rows table).filter filter.passes := by
  rw [Selects, s.answer_where table recognised] at selects
  obtain ⟨filter, made, same⟩ := exists_of_map_eq_ok selects
  exact ⟨filter, made, (ResultSet.mk.inj same).2.symm⟩

variable {column : ColumnRef} {value : String}

theorem isRecognised_textEquals : (Predicate.textEquals column value).IsRecognised := nofun

theorem isRecognised_like : (Predicate.like column value).IsRecognised := nofun

/-- What is looked at in a column that a condition on texts names. -/
theorem rows_of_selects_textEquals (selects : s.Selects table (.textEquals column value) rows) :
    rows = (s.store.rows table).filter (RowFilter.passes
      ⟨.textEquals value, RowFilter.columnLookedAt? s.scope s.catalog table column⟩) := by
  obtain ⟨filter, made, rfl⟩ := exists_filter_of_selects isRecognised_textEquals selects
  cases made
  rfl

theorem exists_isMatch_of_selects_like (selects : s.Selects table (.like column value) rows) :
    ∃ isMatch, Like.build s.regex
        (RowFilter.columnLookedAt? s.scope s.catalog table column).isSome value = .ok isMatch ∧
      rows = (s.store.rows table).filter (RowFilter.passes
        ⟨.like isMatch, RowFilter.columnLookedAt? s.scope s.catalog table column⟩) := by
  obtain ⟨filter, made, rfl⟩ := exists_filter_of_selects isRecognised_like selects
  rw [RowFilter.ofPredicate_like] at made
  obtain ⟨isMatch, built, rfl⟩ := exists_of_map_eq_ok made
  exact ⟨isMatch, built, rfl⟩

/-- A condition with a pattern has an answer exactly if the library builds the expression for the
pattern. The message of its refusal becomes that of the query. -/
theorem answer_like (s : Session) (table : String) (column : ColumnRef) (pattern : String) :
    let expression := s.regex.build Like.options (Like.source s.regex
      (RowFilter.columnLookedAt? s.scope s.catalog table column).isSome pattern)
    (∀ isMatch, expression = .ok isMatch → ∃ rows, s.Selects table (.like column pattern) rows) ∧
    ∀ message, expression = .error message →
      s.answer (Selection.scan ⟨table, some (.like column pattern), none⟩) =
        .error (.unsupportedPredicate ("LIKE '" ++ pattern ++ "': " ++ message)) := by
  intro expression
  constructor
  · intro isMatch made
    refine ⟨_, @selects_of_ofPredicate s table (.like column pattern)
      ⟨.like isMatch, RowFilter.columnLookedAt? s.scope s.catalog table column⟩
      isRecognised_like ?_⟩
    rw [RowFilter.ofPredicate_like, Like.build_eq_ok_iff.2 made]
    rfl
  · intro message refused
    rw [s.answer_where table isRecognised_like, RowFilter.ofPredicate_like,
      Like.build_of_error refused]
    rfl

/-- The rows that conditions on texts select lie in each other, for every library that is standard.
Equality with a text always selects rows, in row scope all that have a cell with the text; being
like a text does if the library builds the expression, and otherwise is an error under strict rules.
In each scope the rows equal to a text are then among those like it; those found in a column are
among those found anywhere in the row, for patterns without underscores; and a column that the
catalogue does not know makes no difference for any condition. -/
theorem conditions_nest {regex : Regex.Library} (standard : regex.IsStandard) (store : Store)
    (catalog : Catalog) (leniency : Leniency) (table : String) (column : ColumnRef)
    (value : String) :
    let sessionIn : MatchScope → Session := fun scope => ⟨store, catalog, leniency, scope, regex⟩
    (∀ scope, ∃ equal, (sessionIn scope).Selects table (.textEquals column value) equal) ∧
    (∀ equal, (sessionIn .row).Selects table (.textEquals column value) equal →
      ∀ row, row ∈ equal ↔ row ∈ store.rows table ∧ ∃ cell ∈ row, cell.display = value) ∧
    (∀ scope,
      let expression := regex.build Like.options (Like.source regex
        (RowFilter.columnLookedAt? scope catalog table column).isSome value)
      (∀ isMatch, expression = .ok isMatch →
        ∃ like, (sessionIn scope).Selects table (.like column value) like) ∧
      ∀ message, expression = .error message → leniency = .strict →
        (sessionIn scope).answer (Selection.scan ⟨table, some (.like column value), none⟩) =
          .error (.unsupportedPredicate ("LIKE '" ++ value ++ "': " ++ message))) ∧
    (∀ scope equal like, (sessionIn scope).Selects table (.textEquals column value) equal →
      (sessionIn scope).Selects table (.like column value) like → equal.Sublist like) ∧
    (∀ inColumn inRow, (sessionIn .column).Selects table (.textEquals column value) inColumn →
      (sessionIn .row).Selects table (.textEquals column value) inRow →
        inColumn.Sublist inRow) ∧
    ('_' ∉ value.toList → ∀ inColumn inRow,
      (sessionIn .column).Selects table (.like column value) inColumn →
      (sessionIn .row).Selects table (.like column value) inRow → inColumn.Sublist inRow) ∧
    (catalog.columnIndex? table column.column = none → ∀ predicate : Predicate,
      predicate.column? = some column →
        (sessionIn .column).answer (Selection.scan ⟨table, some predicate, none⟩) =
          (sessionIn .row).answer (Selection.scan ⟨table, some predicate, none⟩)) := by
  intro sessionIn
  refine ⟨?_, ?_, ?_, ?_, ?_, ?_, ?_⟩
  · intro scope
    exact ⟨_, selects_of_ofPredicate isRecognised_textEquals rfl⟩
  · intro equal selects row
    rw [rows_of_selects_textEquals selects, List.mem_filter]
    exact and_congr_right' (@RowFilter.passes_textEquals_iff none row value)
  · intro scope
    obtain ⟨selects, refused⟩ := (sessionIn scope).answer_like table column value
    exact ⟨selects, fun message built _ => refused message built⟩
  · intro scope equal like selectsEqual selectsLike
    obtain ⟨isMatch, built, rfl⟩ := exists_isMatch_of_selects_like selectsLike
    rw [rows_of_selects_textEquals selectsEqual]
    exact List.monotone_filter_right _ fun _ =>
      RowFilter.passes_like_of_textEquals (Like.isMatch_self standard built)
  · intro inColumn inRow selectsInColumn selectsInRow
    rw [rows_of_selects_textEquals selectsInColumn, rows_of_selects_textEquals selectsInRow]
    exact List.monotone_filter_right _ fun _ => RowFilter.passes_textEquals_row
  · intro absent inColumn inRow selectsInColumn selectsInRow
    obtain ⟨isMatch, built, rfl⟩ := exists_isMatch_of_selects_like selectsInColumn
    obtain ⟨isLooseMatch, loose, rfl⟩ := exists_isMatch_of_selects_like selectsInRow
    exact List.monotone_filter_right _ fun _ =>
      RowFilter.passes_like_row fun _ => Like.isMatch_loose standard absent built loose
  · intro unknown predicate names
    have same : RowFilter.target? .column catalog table predicate =
        RowFilter.target? .row catalog table predicate := by
      simp [RowFilter.target?, names, unknown]
    have recognised : predicate.IsRecognised := by
      rintro clause rfl
      cases names
    rw [(sessionIn .column).answer_where table recognised,
      (sessionIn .row).answer_where table recognised]
    simp only [sessionIn, RowFilter.ofPredicate_congr same]

/-- A pattern with a percent sign in a column that is known, and in one that is not. -/
theorem conditions_nest_users :
    let store : Store := ⟨[("users", [[.integer 1, .text "Ann%"], [.text "an%", .text "x"], []])]⟩
    let sessionIn : MatchScope → Session := fun scope =>
      ⟨store, .classroom, .strict, scope, .builtin⟩
    let like := fun column => Predicate.like ⟨none, column⟩ "an%"
    Regex.Library.builtin.IsStandard ∧
    '_' ∉ "an%".toList ∧ Catalog.classroom.columnIndex? "Users" "age" = none ∧
    (∃ inColumn inRow : List Row, (sessionIn .column).Selects "Users" (like "name") inColumn ∧
      (sessionIn .row).Selects "Users" (like "name") inRow ∧
      inColumn.Sublist inRow ∧ [.text "an%", .text "x"] ∈ inRow) ∧
    (sessionIn .column).answer (Selection.scan ⟨"Users", some (like "age"), none⟩) =
      (sessionIn .row).answer (Selection.scan ⟨"Users", some (like "age"), none⟩) := by
  intro store sessionIn like
  have standard := Regex.Library.builtin_isStandard
  have absent : '_' ∉ "an%".toList := by decide
  have unknown : Catalog.classroom.columnIndex? "Users" "age" = none := by decide +kernel
  have builds : ∀ anchored, ∃ isMatch, Regex.Library.builtin.build Like.options
      (Like.source .builtin anchored "an%") = .ok isMatch := by
    intro anchored
    apply Regex.exists_ok_of_isSome
    revert anchored
    decide +kernel
  obtain ⟨selectsEqual, equal_iff, selectsLike, amongLike, -, inColumnRow, -⟩ :=
    conditions_nest standard store .classroom .strict "Users" ⟨none, "name"⟩ "an%"
  obtain ⟨-, -, -, -, -, -, unknownColumn⟩ :=
    conditions_nest standard store .classroom .strict "Users" ⟨none, "age"⟩ "an%"
  refine ⟨standard, absent, unknown, ?_, unknownColumn unknown (like "age") rfl⟩
  obtain ⟨isMatch, built⟩ := builds true
  obtain ⟨isLooseMatch, loose⟩ := builds false
  have known : (RowFilter.columnLookedAt? .column .classroom "Users" ⟨none, "name"⟩).isSome =
      true := by decide +kernel
  obtain ⟨inColumn, selectsInColumn⟩ := (selectsLike .column).1 isMatch (by rw [known, built])
  obtain ⟨inRow, selectsInRow⟩ := (selectsLike .row).1 isLooseMatch loose
  obtain ⟨equal, selects⟩ := selectsEqual .row
  have stored : [.text "an%", .text "x"] ∈ store.rows "Users" := by decide +kernel
  have isEqual := (equal_iff equal selects _).2 ⟨stored, .text "an%", List.mem_cons_self, rfl⟩
  exact ⟨inColumn, inRow, selectsInColumn, selectsInRow, inColumnRow absent _ _ selectsInColumn
    selectsInRow, (amongLike .row _ _ selects selectsInRow).subset isEqual⟩

end Session

/-! ## Patterns that are refused -/

theorem Regex.compiledSize_append (source more : List Char) :
    compiledSize (source ++ more) =
      more.foldl (fun size c => size + charSize c) (compiledSize source) := by
  rw [compiledSize, List.foldl_append]
  rfl

/-- Each percent sign makes the expression larger by a run. -/
theorem Like.compiledSize_percents (n : Nat) (start : String) :
    Regex.compiledSize (((List.replicate n '%').foldl (translate .builtin false)
      ⟨start, ""⟩).flush .builtin).toList = Regex.compiledSize start.toList + n * 456 := by
  have flushed : ∀ start : String, Translation.flush .builtin ⟨start, ""⟩ = start := by
    intro start
    rw [Translation.flush, show Regex.Library.builtin.escape "" = "" by decide +kernel,
      String.append_empty]
  induction n generalizing start with
  | zero => rw [List.replicate_zero, List.foldl_nil, flushed, Nat.zero_mul, Nat.add_zero]
  | succ n ih =>
    have longer : translate .builtin false ⟨start, ""⟩ '%' = ⟨start ++ ".*", ""⟩ := by
      rw [translate, show wildcard? false '%' = some ".*" from rfl]
      simp only [flushed]
    have run : Regex.compiledSize (start ++ ".*").toList =
        Regex.compiledSize start.toList + 416 + 40 := by
      rw [String.toList_append, Regex.compiledSize_append]
      rfl
    rw [List.replicate_succ, List.foldl_cons, longer, ih, run]
    omega

/-- Too many percent signs are refused. -/
theorem Like.build_percents {n : Nat} (many : Regex.sizeLimit < n * 456) :
    Regex.Library.builtin.build options (source .builtin false (String.ofList (.replicate n '%'))) =
      .error "Compiled regex exceeds size limit of 10485760 bytes." := by
  have size := compiledSize_percents n ""
  rw [show Regex.compiledSize "".toList = 0 from rfl, Nat.zero_add] at size
  have large : Regex.sizeLimit < Regex.compiledSize
      (source .builtin false (String.ofList (.replicate n '%'))).toList := by
    rw [source, String.toList_ofList]
    simp only [Bool.false_eq_true, if_false, String.append_empty, size]
    exact many
  have message : s!"Compiled regex exceeds size limit of {Regex.sizeLimit} bytes." =
      "Compiled regex exceeds size limit of 10485760 bytes." := by decide +kernel
  simp only [Regex.Library.builtin] at large ⊢
  rw [if_pos large, message]

namespace Session

/-- A row with a text is selected by equality with the text, and by no pattern that is refused. -/
theorem selects_of_refused {value message : String} (refused : Regex.Library.builtin.build
      Like.options (Like.source .builtin false value) = .error message) :
    let s : Session := ⟨⟨[("t", [[.text value]])]⟩, .empty, .strict, .row, .builtin⟩
    s.Selects "t" (.textEquals ⟨none, "a"⟩ value) [[.text value]] ∧
    s.answer (Selection.scan ⟨"t", some (.like ⟨none, "a"⟩ value), none⟩) =
      .error (.unsupportedPredicate ("LIKE '" ++ value ++ "': " ++ message)) := by
  intro s
  have rows : s.store.rows "t" = [[.text value]] := by
    have key : Store.key "t" = "t" := by decide +kernel
    rw [Store.rows, Store.rows?, key]
    rfl
  refine ⟨?_, (s.answer_like "t" ⟨none, "a"⟩ value).2 message refused⟩
  have selected := @selects_of_ofPredicate s "t" (.textEquals ⟨none, "a"⟩ value) _
    isRecognised_textEquals rfl
  rw [rows] at selected
  simpa [RowFilter.passes, RowFilter.target?, CellTest.holdsOfRow, Cell.display, s] using selected

/-- A row is not always selected by the pattern that one of its texts is: for a hundred thousand
percent signs the library refuses to build an expression. -/
theorem not_always_like_of_equal :
    (∃ value, value = String.ofList (.replicate 100000 '%') ∧
      let s : Session := ⟨⟨[("t", [[.text value]])]⟩, .empty, .strict, .row, .builtin⟩
      s.Selects "t" (.textEquals ⟨none, "a"⟩ value) [[.text value]] ∧
      s.answer (Selection.scan ⟨"t", some (.like ⟨none, "a"⟩ value), none⟩) =
        .error (.unsupportedPredicate ("LIKE '" ++ value ++ "': " ++
          "Compiled regex exceeds size limit of 10485760 bytes."))) ∧
    ¬ ∀ (s : Session) (table : String) (column : ColumnRef) (value : String) (equal : List Row),
      s.regex.IsStandard → s.Selects table (.textEquals column value) equal →
        ∃ like, s.Selects table (.like column value) like ∧ equal.Sublist like := by
  have tooLarge := Like.build_percents (show Regex.sizeLimit < 100000 * 456 by decide)
  have refused := selects_of_refused tooLarge
  refine ⟨⟨_, rfl, refused⟩, fun always => ?_⟩
  obtain ⟨like, selectsLike, -⟩ := always _ "t" ⟨none, "a"⟩ _ _
    Regex.Library.builtin_isStandard refused.1
  rw [Selects, refused.2] at selectsLike
  cases selectsLike

end Session

end SqlGrader
