import Mathlib.Data.List.Forall2
import SqlGrader.Regex.Builtin
import SqlGrader.Session
import SqlGrader.Proofs.Statement.LiteralText
import SqlGrader.Proofs.Unicode.AsciiLowerCase

/-!
# Inserted rows

The statement that inserts a row does so: it is read as the insertion of cells that are stored
for those of the row. Main statement: `run_insertStatement`.
-/

set_option autoImplicit false

namespace SqlGrader

open SqlGrader.Lexer SqlGrader.Parser

/-! ## Names -/

/-- A letter or `_`, and letters, digits and `_` behind it. -/
def IsWord (text : String) : Prop :=
  ∃ c letters, text.toList = c :: letters ∧ beginsWord c = true ∧
    ∀ d ∈ letters, continuesWord d = true

theorem isWord_iff {text : String} :
    IsWord text ↔ text.toList.head?.any beginsWord = true ∧
      text.toList.tail.all continuesWord = true := by
  unfold IsWord
  cases text.toList with
  | nil => simp
  | cons c letters => simp

instance (text : String) : Decidable (IsWord text) :=
  decidable_of_iff _ isWord_iff.symm

theorem notMem_of_isWord {c : Char} {text : String} (word : IsWord text)
    (apart : beginsWord c = false ∧ continuesWord c = false) : c ∉ text.toList := by
  obtain ⟨first, letters, whole, begins, continues⟩ := word
  rw [whole, List.mem_cons, not_or]
  refine ⟨?_, fun member => ?_⟩
  · rintro rfl
    rw [apart.1] at begins
    cases begins
  · rw [continues c member] at apart
    cases apart.2

/-- A word names the same table whether or not it is a keyword. -/
theorem exists_name (word : List Char) :
    ∃ named, nameOf? (wordKind word) = some named ∧
      Store.key named = Store.key (String.ofList word) := by
  unfold wordKind
  cases known : Keyword.ofWord? word with
  | none => exact ⟨_, rfl, rfl⟩
  | some k =>
    refine ⟨_, rfl, ?_⟩
    have spelled : k.word = String.ofList (word.map Char.toLower) := by
      have found := List.find?_some known
      exact eq_of_beq found
    rw [spelled]
    exact Unicode.toLower_map_toLower word

theorem reads_word {word : String} (h : IsWord word) :
    Reads (some ' ') word.toList (some (wordKind word.toList)) := by
  obtain ⟨c, letters, text, first, inside⟩ := h
  rw [text]
  refine .word first inside fun d next => ?_
  cases next
  decide

/-- A word at the end of a text. -/
theorem reads_last_word {word : String} (h : IsWord word) :
    Reads none word.toList (some (wordKind word.toList)) := by
  obtain ⟨c, letters, text, first, inside⟩ := h
  rw [text]
  exact .word first inside (by simp)

/-! ## Rows -/

theorem reads_space {next? : Option Char} : Reads next? [' '] none :=
  .whiteSpace (by decide)

/-- Literals with commas between them read as a row. -/
theorem exists_row {row : Row} (nonempty : row ≠ [])
    (finite : ∀ x, Cell.float x ∈ row → x.isFinite = true) :
    ∃ spans values, textOf spans = (String.intercalate ", " (row.map Cell.literalText)).toList ∧
      Lexed (some ')') spans ∧ SpellsRow (kindsOf spans) values ∧
      List.Forall₂ Cell.StoredAs row (values.map Literal.toCell) := by
  induction row with
  | nil => exact absurd rfl nonempty
  | cons cell rest ih =>
    have finiteCell : ∀ x, cell = .float x → x.isFinite = true := by
      rintro x rfl
      exact finite x List.mem_cons_self
    obtain ⟨value, ⟨spans, text, lexed, read⟩, stored⟩ := Cell.exists_literal finiteCell
    cases rest with
    | nil =>
      exact ⟨spans, [value], by simpa using text, lexed _ (.inr rfl), .last read,
        .cons stored .nil⟩
    | cons next rest =>
      obtain ⟨later, values, textLater, lexedLater, spelled, storedLater⟩ :=
        ih (by simp) fun x member => finite x (List.mem_cons_of_mem cell member)
      refine ⟨spans ++ ⟨[','], some .comma⟩ :: ⟨[' '], none⟩ :: later, value :: values, ?_, ?_, ?_,
        .cons stored storedLater⟩
      · rw [List.map_cons, List.map_cons, String.intercalate_cons_cons, ← List.map_cons,
          String.toList_append, String.toList_append, ← textLater, ← text]
        simp
      · exact lexed_append.2
          ⟨lexed _ (.inl rfl), reads_sign rfl (by simp), reads_space, lexedLater⟩
      · have kinds : kindsOf (spans ++ ⟨[','], some .comma⟩ :: ⟨[' '], none⟩ :: later) =
            kindsOf spans ++ .comma :: kindsOf later := by
          simp [kindsOf_cons]
        rw [kinds]
        exact .cons read spelled

/-- A row in parentheses reads as a tuple, also when it has no cells. -/
theorem exists_tuple {row : Row} (finite : ∀ x, Cell.float x ∈ row → x.isFinite = true) :
    ∃ spans values,
      textOf spans = '(' :: ((String.intercalate ", " (row.map Cell.literalText)).toList ++ [')']) ∧
      Lexed none spans ∧ SpellsTuple (kindsOf spans) values ∧
      List.Forall₂ Cell.StoredAs row (values.map Literal.toCell) := by
  by_cases nonempty : row = []
  · subst nonempty
    refine ⟨[⟨['('], some .leftParen⟩, ⟨[')'], some .rightParen⟩], [], by simp, ?_, .empty, .nil⟩
    exact ⟨reads_sign rfl (by simp), reads_sign rfl (by simp), trivial⟩
  · obtain ⟨spans, values, text, lexed, spelled, stored⟩ := exists_row nonempty finite
    refine ⟨⟨['('], some .leftParen⟩ :: (spans ++ [⟨[')'], some .rightParen⟩]), values, ?_, ?_, ?_,
      stored⟩
    · simp [← text]
    · exact ⟨reads_sign rfl (by simp),
        lexed_append.2 ⟨lexed, reads_sign rfl (by simp), trivial⟩⟩
    · have kinds : kindsOf (⟨['('], some .leftParen⟩ :: (spans ++ [⟨[')'], some .rightParen⟩])) =
          .leftParen :: (kindsOf spans ++ [.rightParen]) := by
        simp [kindsOf_cons]
      rw [kinds]
      exact .row spelled

/-! ## Statements -/

/-- A word and the space behind it. -/
def wordSpans (word : List Char) : List Span :=
  [⟨word, some (wordKind word)⟩, ⟨[' '], none⟩]

theorem lexed_wordSpans {word : List Char} {rest : List Span} {next? : Option Char}
    (reads : Reads (some ' ') word (some (wordKind word))) (lexed : Lexed next? rest) :
    Lexed next? (wordSpans word ++ rest) :=
  ⟨by simpa [wordSpans] using reads, reads_space, lexed⟩

theorem kindsOf_wordSpans (word : List Char) (rest : List Span) :
    kindsOf (wordSpans word ++ rest) = wordKind word :: kindsOf rest := by
  simp [wordSpans, kindsOf_cons]

/-- The statement that inserts a row is read as one. -/
theorem parse_insertStatement {table : String} {row : Row} (word : IsWord table)
    (finite : ∀ x, Cell.float x ∈ row → x.isFinite = true) :
    ∃ named values, Statement.parse (insertStatement table row) = .ok (.insert named [values]) ∧
      Store.key named = Store.key table ∧
      List.Forall₂ Cell.StoredAs row (values.map Literal.toCell) := by
  obtain ⟨named, read, same⟩ := exists_name table.toList
  rw [String.ofList_toList] at same
  obtain ⟨spans, values, text, lexed, spelled, stored⟩ := exists_tuple finite
  refine ⟨named, values, (Statement.parse_eq_ok_iff (by simp)).2 ?_, same, stored⟩
  have insert : Reads (some ' ') "INSERT".toList (some (wordKind "INSERT".toList)) :=
    reads_word (by decide)
  have into : Reads (some ' ') "INTO".toList (some (wordKind "INTO".toList)) :=
    reads_word (by decide)
  have valuesWord : Reads (some ' ') "VALUES".toList (some (wordKind "VALUES".toList)) :=
    reads_word (by decide)
  refine ⟨wordSpans "INSERT".toList ++ (wordSpans "INTO".toList ++ (wordSpans table.toList ++
    (wordSpans "VALUES".toList ++ spans))), ?_, ?_, ?_⟩
  · simp [insertStatement, wordSpans, text]
  · exact lexed_wordSpans insert (lexed_wordSpans into (lexed_wordSpans (reads_word word)
      (lexed_wordSpans valuesWord lexed)))
  · have keywords : wordKind "INSERT".toList = .keyword .INSERT ∧
        wordKind "INTO".toList = .keyword .INTO ∧
        wordKind "VALUES".toList = .keyword .VALUES := by decide
    simp only [kindsOf_wordSpans, keywords]
    have command := Command.insert read .absent (.last spelled) (.inl rfl)
    simpa using command

/-- Whatever the cells of a row are, short of infinite numbers and not-a-number, the statement
that inserts it into a table adds one row of cells stored for them and changes no other table. -/
theorem run_insertStatement (s : Session) {table : String} {row : Row} (word : IsWord table)
    (there : s.store.contains table = true)
    (finite : ∀ x, Cell.float x ∈ row → x.isFinite = true) :
    ∃ rows stored, s.store.rows? table = some rows ∧
      stored.length = row.length ∧ List.Forall₂ Cell.StoredAs row stored ∧
      (s.run (insertStatement table row)).1 = .ok () ∧
      (s.run (insertStatement table row)).2.store.rows? table = some (rows ++ [stored]) ∧
      ∀ other, Store.key other ≠ Store.key table →
        (s.run (insertStatement table row)).2.store.rows? other = s.store.rows? other := by
  obtain ⟨named, values, parsed, same, stored⟩ := parse_insertStatement word finite
  obtain ⟨rows, found⟩ := Option.isSome_iff_exists.1 there
  have named? : s.store.contains named = true := by
    rw [Store.contains, Store.rows?, same]
    exact there
  have step : s.attempt (insertStatement table row) =
      (.ok (), s.store.modify named (· ++ [values.map Literal.toCell])) := by
    rw [Session.attempt, parsed]
    simp [Store.execute, Store.changeRows, named?]
  have after : s.run (insertStatement table row) =
      (.ok (), { s with store := s.store.modify named (· ++ [values.map Literal.toCell]) }) := by
    rw [Session.run, step]
  refine ⟨rows, values.map Literal.toCell, found, stored.length_eq.symm, stored, ?_, ?_, ?_⟩
  · rw [after]
  · rw [after, Store.rows?_modify, if_pos same.symm, found, Option.map_some]
  · intro other different
    rw [after, Store.rows?_modify, if_neg (same ▸ different)]

/-- A keyword as the name of a table; quotes, signs and the end of a statement in a text; a
negative number, a fraction and null. -/
theorem run_insertStatement_keyword :
    let s : Session := ⟨⟨[("select", [])]⟩, .empty, .strict, .row, .builtin⟩
    let row : Row := [.text "it's; --", .integer (-5), .float (.ofDecimal true ⟨25, -1⟩), .null]
    ∃ rows stored, s.store.rows? "Select" = some rows ∧
      List.Forall₂ Cell.StoredAs row stored ∧
      (s.run (insertStatement "Select" row)).2.store.rows? "Select" = some (rows ++ [stored]) := by
  intro s row
  have word : IsWord "Select" :=
    ⟨'S', "elect".toList, rfl, by decide, List.all_eq_true.1 (by decide)⟩
  have there : s.store.contains "Select" = true := by decide +kernel
  have finite : ∀ x, Cell.float x ∈ row → x.isFinite = true := by
    intro x member
    have same : x = .ofDecimal true ⟨25, -1⟩ := by simpa [row] using member
    rw [same]
    decide +kernel
  obtain ⟨rows, stored, before, -, cells, -, added, -⟩ := run_insertStatement s word there finite
  exact ⟨rows, stored, before, cells, added⟩

end SqlGrader
