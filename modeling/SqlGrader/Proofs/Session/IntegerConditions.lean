import SqlGrader.Proofs.Cell.NearestNumbers
import SqlGrader.Proofs.Plan.NestedConditions
import SqlGrader.Proofs.Session.TableNames

/-!
# Conditions that compare with an integer

In row scope a condition compares the first cell of a row with the number nearest to its integer.
Rows are selected as if the cell was compared with the integer itself, but for other integers that
are rounded to the same number. Main statement: `exec_integerQuery`.
-/

set_option autoImplicit false

namespace SqlGrader

open SqlGrader.Lexer SqlGrader.Parser

/-! ## Integers in a text -/

/-- The integers among the tokens of a text have no sign. -/
theorem Lexer.LexesTo.integer_nonneg {text : List Char} {kinds : List TokenKind} {i : Int64}
    (h : LexesTo text kinds) (member : .integer i ∈ kinds) : 0 ≤ i.toInt := by
  obtain ⟨spans, -, lexed, rfl⟩ := h
  obtain ⟨-, -, -, c, rest, -, digit, spelled⟩ := lexed.exists_numberKind? member (.integer i)
  exact nonneg_of_readInt64? digit (readInt64?_of_numberKind? spelled)

namespace Parser

/-- Kinds that spell a 64-bit integer. The least one has too many digits for an integer token. -/
inductive SpellsInteger : List TokenKind → Int64 → Prop where
  | plain (i : Int64) : SpellsInteger [.integer i] i
  | minus (i : Int64) : SpellsInteger [.minus, .integer i] (-i)
  | least : SpellsInteger [.minus, .float (.ofInt 9223372036854775808)] Int64.minValue

/-- What spells an integer spells the number nearest to it, perhaps with the other sign of zero. -/
theorem SpellsInteger.exists_spellsNumber {kinds : List TokenKind} {n : Int64}
    (h : SpellsInteger kinds n) (nonneg : ∀ i, .integer i ∈ kinds → 0 ≤ i.toInt) :
    ∃ x, SpellsNumber kinds x ∧ x.place? = (Binary64.ofInt64 n).place? := by
  cases h with
  | plain => exact ⟨_, .plain (.integer n), rfl⟩
  | minus i =>
    refine ⟨_, .minus (.integer i), ?_⟩
    rw [Binary64.ofInt64, Binary64.place?_neg_ofInt, Binary64.ofInt64,
      toInt_neg_of_nonneg (nonneg i (by simp))]
  | least => exact ⟨_, .minus (.float _), Binary64.place?_neg_ofInt _⟩

/-- The text of an integer spells it. -/
theorem exists_lexesTo_integerText (n : Int64) :
    ∃ kinds, SpellsInteger kinds n ∧ LexesTo (Text.integerText n.toInt) kinds := by
  by_cases least : n = Int64.minValue
  · subst least
    have text : Text.integerText Int64.minValue.toInt = "-9223372036854775808".toList := by
      decide +kernel
    exact ⟨_, .least, text ▸ lexesTo_of_toOption (by decide +kernel)⟩
  have low := n.le_toInt
  have high := n.toInt_lt
  have notLeast : n.toInt ≠ Int64.minValue.toInt := fun same => least (Int64.toInt_inj.1 same)
  rw [Int64.toInt_minValue] at notLeast
  have digits : numberKind? (Nat.toDigits 10 n.toInt.natAbs) =
      some (.integer (Int64.ofInt n.toInt.natAbs)) := by
    apply numberKind?_small
    rw [Int64.toInt_maxValue]
    omega
  have reads : Reads none (Nat.toDigits 10 n.toInt.natAbs)
      (some (.integer (Int64.ofInt n.toInt.natAbs))) := reads_toDigits digits (by simp)
  have magnitude : (Int64.ofInt n.toInt.natAbs).toInt = n.toInt.natAbs :=
    Int64.toInt_ofInt_of_le (by omega) (by omega)
  by_cases negative : n.toInt < 0
  · have same : -Int64.ofInt n.toInt.natAbs = n := by
      rw [← Int64.toInt_inj, toInt_neg_of_nonneg (by omega), magnitude]
      omega
    have spelled := SpellsInteger.minus (Int64.ofInt n.toInt.natAbs)
    rw [same] at spelled
    refine ⟨_, spelled, ?_⟩
    rw [Text.integerText, if_pos negative]
    obtain ⟨c, first, digit⟩ := exists_digit_toDigits n.toInt.natAbs
    refine ⟨[⟨['-'], some .minus⟩,
      ⟨Nat.toDigits 10 n.toInt.natAbs, some (.integer (Int64.ofInt n.toInt.natAbs))⟩], by simp,
      ⟨reads_sign rfl fun _ => ?_, by simpa using reads, trivial⟩, rfl⟩
    simp only [textOf_cons, textOf_nil, List.append_nil, first, Option.some_or]
    rintro ⟨⟩
    revert digit
    decide
  · have same : Int64.ofInt n.toInt.natAbs = n := by
      rw [← Int64.toInt_inj, magnitude]
      omega
    rw [same] at reads
    rw [Text.integerText, if_neg negative]
    exact ⟨_, .plain n, [⟨Nat.toDigits 10 n.toInt.natAbs, some (.integer n)⟩], by simp,
      ⟨by simpa using reads, trivial⟩, rfl⟩

/-- The kinds of the tokens of a query for the rows of a table in which a column is an integer. -/
inductive IntegerQuery : List TokenKind → String → Int64 → Prop where
  | of {named number last : List TokenKind} {kind : TokenKind} {table : String} {column : ColumnRef}
      {n : Int64} (read : nameOf? kind = some table) (names : SpellsColumn named column)
      (spelled : SpellsInteger number n) (ends : Terminator last) :
      IntegerQuery (.keyword .SELECT :: .star :: .keyword .FROM :: kind :: .keyword .WHERE ::
        (named ++ .equal :: number ++ last)) table n

/-- Such a query compares with the number nearest to the integer. -/
theorem IntegerQuery.exists_parse {text : String} {kinds : List TokenKind} {table : String}
    {n : Int64} (h : IntegerQuery kinds table n) (lexes : LexesTo text.toList kinds) :
    ∃ column x, x.place? = (Binary64.ofInt64 n).place? ∧ Statement.parse text =
      .ok (.select (Selection.scan ⟨table, some (.numberEquals column x), none⟩)) := by
  obtain @⟨named, number, last, kind, _, column, _, read, names, spelled, ends⟩ := h
  have nonneg : ∀ i, .integer i ∈ number → 0 ≤ i.toInt := fun i member =>
    lexes.integer_nonneg (by simp [member])
  obtain ⟨x, compared, place⟩ := spelled.exists_spellsNumber nonneg
  have tail : SpellsTail _ (some (.numberEquals column x)) none :=
    .restricted (.of names (.numberEquals compared)) ends
  exact ⟨column, x, place,
    parse_of_tail (.last spellsItem_star) (by simp) read tail.spellsAlias tail lexes⟩

def integerQuery (table column : String) (n : Int64) : String :=
  "SELECT * FROM " ++ table ++ " WHERE " ++ column ++ " = " ++
    String.ofList (Text.integerText n.toInt)

/-- There is a query for each integer and for each word as the name of a table. -/
theorem exists_lexesTo_integerQuery {table column : String} (word : IsWord table)
    (isColumn : IsWord column) (noKeyword : Keyword.ofWord? column.toList = none) (n : Int64) :
    ∃ kinds named, LexesTo (integerQuery table column n).toList kinds ∧
      IntegerQuery kinds named n ∧ Store.key named = Store.key table := by
  obtain ⟨named, read, same⟩ := exists_name table.toList
  rw [String.ofList_toList] at same
  obtain ⟨number, spelled, integer⟩ := exists_lexesTo_integerText n
  have select : LexesTo "SELECT * FROM".toList [.keyword .SELECT, .star, .keyword .FROM] :=
    lexesTo_of_toOption (by decide +kernel)
  have where? : LexesTo "WHERE".toList [.keyword .WHERE] := lexesTo_of_toOption (by decide +kernel)
  have equal : LexesTo "=".toList [.equal] := lexesTo_of_toOption (by decide +kernel)
  have whole := lexesTo_word_between select (by decide +kernel) word
    (lexesTo_word_between where? (by decide +kernel) isColumn
      (equal.space (by decide +kernel) integer))
  have text : (integerQuery table column n).toList = "SELECT * FROM".toList ++ ' ' ::
      (table.toList ++ ' ' :: ("WHERE".toList ++ ' ' ::
        (column.toList ++ ' ' :: ("=".toList ++ ' ' :: Text.integerText n.toInt)))) := by
    unfold integerQuery
    simp
  have isName : wordKind column.toList = .identifier column := by
    rw [wordKind, noKeyword, String.ofList_toList]
  rw [← text, isName] at whole
  refine ⟨_, named, whole, ?_, same⟩
  simpa using IntegerQuery.of read (.plain column) spelled (.inl rfl)

end Parser

/-! ## First cells -/

def Row.beginsWith (value : Cell) (row : Row) : Bool :=
  row.head?.any (·.equals value)

theorem Row.beginsWith_cons {value cell : Cell} {rest : Row} :
    Row.beginsWith value (cell :: rest) = cell.equals value := rfl

/-- In row scope a number is compared with the first cell. -/
theorem RowFilter.passes_numberEquals (x : Binary64) :
    RowFilter.passes ⟨.numberEquals x, none⟩ = Row.beginsWith (.float x) := by
  funext row
  simp only [passes, CellTest.holdsOfRow, Row.beginsWith, Cell.equals_float]

/-- Rows that begin with the number nearest to an integer begin with the integer, or with another
one that is rounded to the same number. -/
theorem Row.beginsWith_nearest_iff {row : Row} {n : Int64} :
    row.beginsWith (.float (.ofInt64 n)) = true ↔
      row.beginsWith (.integer n) = true ∨ ∃ j rest, row = .integer j :: rest ∧ j ≠ n ∧
        (Binary64.ofInt64 j).equals (.ofInt64 n) = true := by
  cases row with
  | nil => simp [beginsWith]
  | cons cell rest =>
    simp only [beginsWith_cons, Cell.equals_nearest_iff, List.cons.injEq]
    refine or_congr_right ⟨?_, ?_⟩
    · rintro ⟨j, rfl, other, rounded⟩
      exact ⟨j, rest, ⟨rfl, rfl⟩, other, rounded⟩
    · rintro ⟨j, _, ⟨rfl, -⟩, other, rounded⟩
      exact ⟨j, rfl, other, rounded⟩

/-! ## Queries -/

namespace Session

/-- A query for the rows in which a column is an integer selects in row scope the rows that begin
with the number nearest to the integer. Among them are all rows that begin with the integer; the
others begin with another integer that is rounded to the same number. There are no others exactly
when no row of the table begins so, as for all integers of up to 53 bits. -/
theorem exec_integerQuery (s : Session) (rowScope : s.scope = .row) {sql table : String}
    {kinds : List TokenKind} {n : Int64} (lexes : LexesTo sql.toList kinds)
    (query : IntegerQuery kinds table n) :
    let rows := s.store.rows table
    let selected := rows.filter (Row.beginsWith (.float (.ofInt64 n)))
    let equal := rows.filter (Row.beginsWith (.integer n))
    s.exec sql = .ok (some ⟨s.catalog.columns table, selected⟩) ∧
    equal.Sublist selected ∧
    (∀ row ∈ selected, row ∉ equal → ∃ j rest, row = .integer j :: rest ∧ j ≠ n ∧
      (Binary64.ofInt64 j).equals (.ofInt64 n) = true) ∧
    (selected = equal ↔ ∀ j rest, .integer j :: rest ∈ rows →
      (Binary64.ofInt64 j).equals (.ofInt64 n) = true → j = n) ∧
    (n.toInt.natAbs < 2 ^ 53 → selected = equal) := by
  intro rows selected equal
  obtain ⟨column, x, place, parsed⟩ := query.exists_parse lexes
  have recognised : (Predicate.numberEquals column x).IsRecognised := by
    rintro clause ⟨⟩
  have answered := s.answer_where table recognised
  have sameRows : Row.beginsWith (.float x) = Row.beginsWith (.float (.ofInt64 n)) := by
    funext row
    simp only [Row.beginsWith, Cell.equals_float_of_place? place]
  have whole_iff : selected = equal ↔ ∀ j rest, .integer j :: rest ∈ rows →
      (Binary64.ofInt64 j).equals (.ofInt64 n) = true → j = n := by
    constructor
    · intro same j rest member rounded
      have isSelected : .integer j :: rest ∈ selected := by
        refine List.mem_filter.2 ⟨member, Row.beginsWith_cons.trans ?_⟩
        rwa [Cell.equals_float, Cell.number?, Option.any_some]
      rw [same] at isSelected
      exact eq_of_beq (Row.beginsWith_cons.symm.trans (List.mem_filter.1 isSelected).2)
    · intro unique
      refine List.filter_congr fun row member => ?_
      rw [Bool.eq_iff_iff, Row.beginsWith_nearest_iff, or_iff_left]
      rintro ⟨j, rest, rfl, other, rounded⟩
      exact other (unique j rest member rounded)
  refine ⟨?_, ?_, ?_, whole_iff, fun small => whole_iff.2 fun j rest _ rounded => ?_⟩
  · rw [exec, parsed]
    simp only [answered, RowFilter.ofPredicate, RowFilter.target?, rowScope, Except.map,
      RowFilter.passes_numberEquals, sameRows]
    rfl
  · exact List.monotone_filter_right _ fun row begins => Row.beginsWith_nearest_iff.2 (.inl begins)
  · intro row isSelected notEqual
    obtain ⟨member, begins⟩ := List.mem_filter.1 isSelected
    rcases Row.beginsWith_nearest_iff.1 begins with itself | other
    · exact absurd (List.mem_filter.2 ⟨member, itself⟩) notEqual
    · exact other
  · exact Int64.toInt_inj.1 (Binary64.eq_of_ofInt_equals small rounded)

/-- A keyword as the name of the table, and an integer next to one that is rounded to it. -/
theorem exec_integerQuery_order :
    let s := (start .empty .strict .row .builtin).runs ["CREATE TABLE order (id INT)",
      "INSERT INTO order VALUES (-9007199254740992), (-9007199254740993)",
      "INSERT INTO order VALUES (-9007199254740992.0, 'x')"]
    let sql := integerQuery "Order" "id" (-9007199254740993)
    s.scope = .row ∧
    ∃ kinds named rows, LexesTo sql.toList kinds ∧
      IntegerQuery kinds named (-9007199254740993) ∧ Store.key named = "order" ∧
      s.exec sql = .ok (some ⟨["col1", "col2", "col3"], rows⟩) ∧
      [.integer (-9007199254740993)] ∈ rows := by
  intro s sql
  have rowScope : s.scope = .row := by
    simp only [s, runs_eq]
    rfl
  have noCatalog : s.catalog = .empty := by
    simp only [s, runs_eq]
    rfl
  have isTable : IsWord "Order" := by decide
  have isColumn : IsWord "id" := by decide
  obtain ⟨kinds, named, lexes, query, key⟩ :=
    exists_lexesTo_integerQuery isTable isColumn (by decide +kernel) (-9007199254740993)
  have order : Store.key named = "order" := by
    rw [key]
    decide +kernel
  have labels : s.catalog.columns named = ["col1", "col2", "col3"] := by
    rw [← Catalog.columns_key, order, noCatalog]
    decide +kernel
  have stored : [.integer (-9007199254740993)] ∈ s.store.rows named := by
    rw [← Store.rows_key, order]
    decide +kernel
  obtain ⟨answered, among, -⟩ := s.exec_integerQuery rowScope lexes query
  rw [labels] at answered
  exact ⟨rowScope, kinds, named, _, lexes, query, order, answered,
    among.subset (List.mem_filter.2 ⟨stored, by decide⟩)⟩

/-- Not only rows that begin with the integer are selected: `2 ^ 53` is selected for `2 ^ 53 + 1`,
which is rounded to it. -/
theorem not_always_selects_equal :
    ¬ ∀ (catalog : Catalog) (leniency : Leniency) (regex : Regex.Library) (sqls : List String)
      (sql table : String) (kinds : List TokenKind) (n : Int64),
      LexesTo sql.toList kinds → IntegerQuery kinds table n →
      ((start catalog leniency .row regex).runs sqls).exec sql = .ok (some ⟨catalog.columns table,
        (((start catalog leniency .row regex).runs sqls).store.rows table).filter
          (Row.beginsWith (.integer n))⟩) := by
  intro always
  have query : IntegerQuery [.keyword .SELECT, .star, .keyword .FROM, .identifier "t",
      .keyword .WHERE, .identifier "id", .equal, .integer 9007199254740993] "t"
      9007199254740993 :=
    .of rfl (.plain "id") (.plain 9007199254740993) (.inl rfl)
  have selects := always .empty .strict .builtin ["CREATE TABLE t (id INT)",
      "INSERT INTO t VALUES (9007199254740992), (9007199254740993)"]
    "SELECT * FROM t WHERE id = 9007199254740993" "t" _ 9007199254740993
    (lexesTo_of_toOption (by decide +kernel)) query
  revert selects
  decide +kernel

end Session

end SqlGrader
