import SqlGrader.Proofs.Session.History
import SqlGrader.Proofs.Token.Numbers

/-!
# Cells that come to be stored

A row of a store comes from the text of an insertion, and each of its cells from a literal there. A
number is spelled by digits, with or without a point: that may be an infinite number, if there are
many digits, but never not-a-number. A word is stored as a number only if that is finite. Main
statements: `Session.exists_literal_of_runs`, `Session.freeOfNan_of_runs`.
-/

set_option autoImplicit false

namespace SqlGrader

/-! ## Numbers in a text -/

namespace Lexer

/-- A text that begins with a digit spells a number. -/
theorem numberKind?_ne_nan {c : Char} {rest : List Char} (digit : c.isDigit = true) :
    numberKind? (c :: rest) ≠ some (.float .nan) := by
  intro spelled
  obtain ⟨d, -, rounded⟩ := exists_decimal_of_numberKind? digit spelled
  unfold Binary64.ofDecimal at rounded
  split at rounded <;> cases rounded

theorem nan_notMem_kindsOf {next? : Option Char} {spans : List Span} (h : Lexed next? spans) :
    .float .nan ∉ kindsOf spans := by
  intro member
  obtain ⟨-, -, -, c, rest, -, digit, spelled⟩ := h.exists_numberKind? member (.float .nan)
  exact numberKind?_ne_nan digit spelled

end Lexer

theorem Binary64.neg_eq_nan_iff {x : Binary64} : x.neg = .nan ↔ x = .nan := by
  cases x <;> simp [neg]

/-! ## Literals in a text -/

open SqlGrader.Lexer SqlGrader.Parser

/-- A literal that stands in a text. -/
def Statement.HasLiteral (sql : String) (value : Literal) : Prop :=
  ∃ kinds part, LexesTo sql.toList kinds ∧ part <:+: kinds ∧ literalOf? part = some value

namespace Parser

variable {kinds : List TokenKind}

theorem infix_behind {part later : List TokenKind} (front : List TokenKind) (kind : TokenKind)
    (inside : part <:+: later) : part <:+: front ++ kind :: later :=
  inside.trans ((List.suffix_cons kind later).trans (List.suffix_append front _)).isInfix

theorem SpellsRow.exists_part {row : List Literal} (h : SpellsRow kinds row) {value : Literal}
    (member : value ∈ row) : ∃ part, part <:+: kinds ∧ literalOf? part = some value := by
  induction h with
  | last read =>
    obtain rfl := List.mem_singleton.1 member
    exact ⟨_, List.infix_refl _, read⟩
  | cons read more ih =>
    rcases List.mem_cons.1 member with rfl | behind
    · exact ⟨_, (List.prefix_append _ _).isInfix, read⟩
    · obtain ⟨part, inside, spelled⟩ := ih behind
      exact ⟨part, infix_behind _ .comma inside, spelled⟩

theorem SpellsTuple.exists_part {row : List Literal} (h : SpellsTuple kinds row) {value : Literal}
    (member : value ∈ row) : ∃ part, part <:+: kinds ∧ literalOf? part = some value := by
  cases h with
  | empty => cases member
  | row read =>
    obtain ⟨part, inside, spelled⟩ := read.exists_part member
    exact ⟨part, inside.trans ⟨[.leftParen], [.rightParen], rfl⟩, spelled⟩

theorem SpellsTuples.exists_part {rows : List (List Literal)} (h : SpellsTuples kinds rows)
    {row : List Literal} (isRow : row ∈ rows) {value : Literal} (member : value ∈ row) :
    ∃ part, part <:+: kinds ∧ literalOf? part = some value := by
  induction h with
  | last read =>
    obtain rfl := List.mem_singleton.1 isRow
    exact read.exists_part member
  | cons read more ih =>
    rcases List.mem_cons.1 isRow with rfl | behind
    · obtain ⟨part, inside, spelled⟩ := read.exists_part member
      exact ⟨part, inside.trans (List.prefix_append _ _).isInfix, spelled⟩
    · obtain ⟨part, inside, spelled⟩ := ih behind
      exact ⟨part, infix_behind _ .comma inside, spelled⟩

theorem ne_nan_of_literalOf? {x : Binary64} (read : literalOf? kinds = some (.float x))
    (noNan : .float .nan ∉ kinds) : x ≠ .nan := by
  rintro rfl
  unfold literalOf? at read
  split at read <;> simp_all [Binary64.neg_eq_nan_iff]

end Parser

theorem Literal.toCell_bare_ne_nan (word : String) : (bare word).toCell ≠ .float .nan := by
  rw [toCell]
  split
  · simp
  · split
    · split
      · rename_i x _ finite
        rintro ⟨⟩
        cases finite
      · simp
    · simp

def Row.FreeOfNan (row : Row) : Prop :=
  ∀ cell ∈ row, cell ≠ .float .nan

/-! ## Rows of a store -/

namespace Statement

theorem HasLiteral.toCell_ne_nan {sql : String} {value : Literal} (h : HasLiteral sql value) :
    value.toCell ≠ .float .nan := by
  obtain ⟨kinds, part, ⟨spans, -, lexed, rfl⟩, inside, read⟩ := h
  have noNan : .float .nan ∉ part := fun member => nan_notMem_kindsOf lexed (inside.subset member)
  cases value with
  | quoted text => simp [Literal.toCell]
  | integer i => simp [Literal.toCell]
  | float x => simpa [Literal.toCell] using ne_nan_of_literalOf? read noNan
  | bare word => exact Literal.toCell_bare_ne_nan word

/-- Each cell that a text adds to a table is what a literal in the text is stored as. -/
theorem exists_literal_of_parse {sql : String} {statement : Statement}
    (parsed : parse sql = .ok statement) {row : Row} (isRow : row ∈ statement.addedRows)
    {cell : Cell} (member : cell ∈ row) : ∃ value, HasLiteral sql value ∧ cell = value.toCell := by
  cases statement with
  | insert table rows =>
    obtain ⟨spans, whole, lexed, command⟩ := (parse_eq_ok_iff (by simp)).1 parsed
    generalize made : kindsOf spans = kinds at command
    cases command with
    | @insert kind _ columns tuples last _ read list values ends =>
      obtain ⟨literals, isTuple, rfl⟩ := List.mem_map.1 isRow
      obtain ⟨value, isLiteral, rfl⟩ := List.mem_map.1 member
      obtain ⟨part, inside, spelled⟩ := values.exists_part isTuple isLiteral
      have among := infix_behind (.keyword .INSERT :: .keyword .INTO :: kind :: columns)
        (.keyword .VALUES) (inside.trans (List.prefix_append tuples last).isInfix)
      exact ⟨value, ⟨_, part, ⟨spans, whole, lexed, made⟩, among, spelled⟩, rfl⟩
  | _ => cases isRow

/-- A statement keeps what holds of all rows, if it holds of those that it adds. -/
theorem forall_effect {p : Row → Prop} {statement : Statement} {rows? : Option (List Row)}
    (old : ∀ rows, rows? = some rows → ∀ row ∈ rows, p row)
    (added : ∀ row ∈ statement.addedRows, p row) :
    ∀ rows, statement.effect rows? = some rows → ∀ row ∈ rows, p row := by
  intro rows after row member
  cases statement with
  | createTable name =>
    cases after
    cases member
  | dropTable name ifExists => cases after
  | delete name =>
    obtain ⟨before, -, rfl⟩ := Option.map_eq_some_iff.1 after
    cases member
  | insert name values =>
    obtain ⟨before, there, rfl⟩ := Option.map_eq_some_iff.1 after
    rcases List.mem_append.1 member with earlier | new
    · exact old before there row earlier
    · exact added row new
  | select query => exact old rows after row member

theorem forall_effects {p : Row → Prop} {statements : List Statement} {rows? : Option (List Row)}
    (old : ∀ rows, rows? = some rows → ∀ row ∈ rows, p row)
    (added : ∀ statement ∈ statements, ∀ row ∈ statement.addedRows, p row) :
    ∀ rows, effects statements rows? = some rows → ∀ row ∈ rows, p row := by
  induction statements generalizing rows? with
  | nil => exact old
  | cons statement rest ih =>
    apply ih (forall_effect old (added statement List.mem_cons_self))
    exact fun later member => added later (List.mem_cons_of_mem statement member)

theorem exists_parse_of_mem_history {table : String} {sqls : List String} {statement : Statement}
    (member : statement ∈ history table sqls) : ∃ sql ∈ sqls, parse sql = .ok statement := by
  obtain ⟨sql, isText, parsed⟩ := List.mem_filterMap.1 (List.mem_of_mem_filter member)
  exact ⟨sql, isText, Lexer.eq_ok_of_toOption parsed⟩

end Statement

/-- After any run of a new session each cell of a table is what a literal in one of the texts is
stored as. -/
theorem Session.exists_literal_of_runs (catalog : Catalog) (leniency : Leniency)
    (scope : MatchScope) (regex : Regex.Library) (sqls : List String) (table : String) :
    ∀ row ∈ ((start catalog leniency scope regex).runs sqls).store.rows table, ∀ cell ∈ row,
      ∃ sql ∈ sqls, ∃ value, Statement.HasLiteral sql value ∧ cell = value.toCell := by
  intro row member
  obtain ⟨rows, there, isRow⟩ : ∃ rows,
      ((start catalog leniency scope regex).runs sqls).store.rows? table = some rows ∧
        row ∈ rows := by
    unfold Store.rows at member
    cases there : ((start catalog leniency scope regex).runs sqls).store.rows? table with
    | none =>
      rw [there] at member
      cases member
    | some rows =>
      rw [there] at member
      exact ⟨rows, rfl, member⟩
  rw [rows?_runs] at there
  refine Statement.forall_effects (p := fun row => ∀ cell ∈ row, ∃ sql ∈ sqls, ∃ value,
    Statement.HasLiteral sql value ∧ cell = value.toCell) ?_ (fun statement isStatement => ?_) rows
    there row isRow
  · intro rows none?
    cases none?
  · intro row isAdded cell isCell
    obtain ⟨sql, isText, parsed⟩ := Statement.exists_parse_of_mem_history isStatement
    exact ⟨sql, isText, Statement.exists_literal_of_parse parsed isAdded isCell⟩

/-- After any run of a new session no cell of a table is not-a-number. -/
theorem Session.freeOfNan_of_runs (catalog : Catalog) (leniency : Leniency) (scope : MatchScope)
    (regex : Regex.Library) (sqls : List String) (table : String) :
    ∀ row ∈ ((start catalog leniency scope regex).runs sqls).store.rows table, row.FreeOfNan := by
  intro row isRow cell isCell
  obtain ⟨sql, -, value, literal, rfl⟩ :=
    exists_literal_of_runs catalog leniency scope regex sqls table row isRow cell isCell
  exact literal.toCell_ne_nan

end SqlGrader
