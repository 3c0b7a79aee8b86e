import SqlGrader.Proofs.Statement.Queries

/-!
# Queries of recognised parts

A query whose items, condition and grouping are all recognised, and that has nothing behind them,
is told from the kinds of its tokens alone. Main statement: `parse_of_query`.
-/

set_option autoImplicit false

namespace SqlGrader

namespace Parser

/-! ## The parts behind the table -/

/-- Kinds that stand behind the table of a query of recognised parts: perhaps a comparison, perhaps
a grouping, perhaps a semicolon. -/
inductive SpellsTail : List TokenKind → Option Predicate → Option ColumnRef → Prop where
  | bare {last : List TokenKind} (ends : Terminator last) : SpellsTail last none none
  | restricted {compared last : List TokenKind} {predicate : Predicate}
      (compares : SpellsComparison compared predicate) (ends : Terminator last) :
      SpellsTail (.keyword .WHERE :: (compared ++ last)) (some predicate) none
  | grouped {named last : List TokenKind} {column : ColumnRef} (names : SpellsColumn named column)
      (ends : Terminator last) :
      SpellsTail (.keyword .GROUP :: .keyword .BY :: (named ++ last)) none (some column)
  | both {compared named last : List TokenKind} {predicate : Predicate} {column : ColumnRef}
      (compares : SpellsComparison compared predicate) (names : SpellsColumn named column)
      (ends : Terminator last) :
      SpellsTail (.keyword .WHERE :: (compared ++
        .keyword .GROUP :: .keyword .BY :: (named ++ last))) (some predicate) (some column)

variable {kinds : List TokenKind} {condition? : Option Predicate} {groupBy? : Option ColumnRef}

theorem Terminator.head?_ne {last : List TokenKind} (h : Terminator last) {kind : TokenKind}
    (different : kind ≠ .semicolon) : last.head? ≠ some kind := by
  rcases h with rfl | rfl
  · simp
  · simpa using Ne.symm different

theorem Terminator.head?_ends {last : List TokenKind} (h : Terminator last) :
    ∀ kind, last.head? = some kind → EndsClause kind := by
  intro kind first
  rcases h with rfl | rfl <;> cases first
  exact .semicolon

/-- No alias is found where recognised parts begin. -/
theorem SpellsTail.spellsAlias (h : SpellsTail kinds condition? groupBy?) :
    SpellsAlias [] kinds := by
  cases h with
  | bare ends => exact .absent (ends.head?_ne (by simp)) fun name => ends.head?_ne (by simp)
  | _ => exact .absent (by simp) (by simp)

/-- A condition and a grouping, each perhaps absent, and a terminator. -/
theorem SpellsTail.parts (h : SpellsTail kinds condition? groupBy?) :
    ∃ condition group last, kinds = condition ++ (group ++ last) ∧
      SpellsWhere condition (group ++ last) condition? ∧ SpellsGroup group last groupBy? ∧
      Terminator last := by
  have notDot : ∀ {last : List TokenKind} {column : ColumnRef}, Terminator last →
      column.table? = none → last.head? ≠ some .dot := fun ends _ => ends.head?_ne (by simp)
  cases h with
  | bare ends =>
    exact ⟨[], [], kinds, rfl, .absent (ends.head?_ne (by simp)), .absent (ends.head?_ne (by simp)),
      ends⟩
  | restricted compares ends =>
    exact ⟨_ :: _, [], _, rfl, .comparison compares ends.head?_ends,
      .absent (ends.head?_ne (by simp)), ends⟩
  | grouped names ends =>
    exact ⟨[], _ :: _ :: _, _, rfl, .absent (by simp), .column names (notDot ends), ends⟩
  | both compares names ends =>
    refine ⟨_ :: _, _ :: _ :: _, _, rfl, .comparison compares ?_, .column names (notDot ends), ends⟩
    intro kind first
    cases first
    exact .group

theorem query_of_tail {list label : List TokenKind} {kind : TokenKind} {items : List SelectItem}
    {table : String} (spelled : Separated SpellsItem list items) (read : nameOf? kind = some table)
    (aliased : SpellsAlias label kinds) (tail : SpellsTail kinds condition? groupBy?) :
    Query (.keyword .SELECT :: (list ++ .keyword .FROM :: kind :: (label ++ kinds)))
      ⟨items, some table, condition?, groupBy?, none⟩ := by
  obtain ⟨condition, group, last, rfl, restricted, grouped, ends⟩ := tail.parts
  exact @Query.of list label condition group [] last _ _ _ _ _ spelled read aliased restricted
    grouped inside_nil ends

theorem SpellsComparison.ne_unsupported {predicate : Predicate}
    (h : SpellsComparison kinds predicate) (clause : String) : predicate ≠ .unsupported clause := by
  obtain ⟨-, compares⟩ := h
  cases compares <;> simp

theorem SpellsTail.condition_ne (h : SpellsTail kinds condition? groupBy?) (clause : String) :
    condition? ≠ some (.unsupported clause) := by
  cases h with
  | bare => simp
  | grouped => simp
  | restricted compares => simpa using compares.ne_unsupported clause
  | both compares => simpa using compares.ne_unsupported clause

/-! ## Items -/

theorem spellsItem_star : SpellsItem [.star] .allColumns :=
  ⟨by simp, rfl, rfl⟩

theorem spellsItem_count :
    SpellsItem [.keyword .COUNT, .leftParen, .star, .rightParen] .countAll :=
  ⟨by simp, rfl, rfl⟩

end Parser

/-! ## Whole queries -/

open SqlGrader.Lexer SqlGrader.Parser

/-- A query of which no part is kept as text. -/
structure Select.IsInterpreted (query : Select) : Prop where
  items : ∀ text, .expression text ∉ query.items
  condition : ∀ clause, query.condition? ≠ some (.unsupported clause)
  trailing : query.trailing? = none

theorem SelectItem.outline_cases (item : SelectItem) :
    item.outline = item ∨ item.outline = .expression "" := by
  cases item <;> simp [outline]

theorem Predicate.outline_cases (predicate : Predicate) :
    predicate.outline = predicate ∨ predicate.outline = .unsupported "" := by
  cases predicate <;> simp [outline]

/-- What is interpreted throughout is the outline of no other query. -/
theorem Select.eq_of_outline {query outline : Select} (same : query.outline = outline)
    (interpreted : outline.IsInterpreted) : query = outline := by
  subst same
  obtain ⟨items, condition, trailing⟩ := interpreted
  have items_eq : query.items.map .outline = query.items := by
    apply List.map_congr_left _ |>.trans (List.map_id _)
    intro item member
    rcases item.outline_cases with kept | text
    · exact kept
    · exact absurd (text ▸ List.mem_map_of_mem member) (items "")
  have condition_eq : query.condition?.map .outline = query.condition? := by
    cases given : query.condition? with
    | none => rfl
    | some predicate =>
      rcases predicate.outline_cases with kept | text
      · rw [Option.map_some, kept]
      · exact absurd (by rw [outline, given, Option.map_some, text]) (condition "")
  have trailing_eq : query.trailing? = none := by simpa [outline] using trailing
  rw [outline, items_eq, condition_eq, trailing_eq, Option.map_none, ← trailing_eq]

/-- A text is read as the query that its tokens describe, if they leave nothing uninterpreted. -/
theorem parse_of_query {text : String} {kinds : List TokenKind} {query : Select}
    (lexes : LexesTo text.toList kinds) (h : Query kinds query)
    (interpreted : query.IsInterpreted) : Statement.parse text = .ok (.select query) := by
  obtain ⟨found, read, -, same⟩ := (exists_parse_iff_query lexes).2 h
  rw [read, Select.eq_of_outline same interpreted]

/-- A query for recognised items with recognised parts behind the table is read as that. -/
theorem parse_of_tail {text : String} {list label kinds : List TokenKind} {kind : TokenKind}
    {items : List SelectItem} {table : String} {condition? : Option Predicate}
    {groupBy? : Option ColumnRef} (spelled : Separated SpellsItem list items)
    (interpreted : ∀ text, .expression text ∉ items) (read : nameOf? kind = some table)
    (aliased : SpellsAlias label kinds) (tail : SpellsTail kinds condition? groupBy?)
    (lexes : LexesTo text.toList
      (.keyword .SELECT :: (list ++ .keyword .FROM :: kind :: (label ++ kinds)))) :
    Statement.parse text = .ok (.select ⟨items, some table, condition?, groupBy?, none⟩) :=
  parse_of_query lexes (query_of_tail spelled read aliased tail)
    ⟨interpreted, tail.condition_ne, rfl⟩

end SqlGrader
