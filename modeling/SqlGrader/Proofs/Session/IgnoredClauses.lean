import SqlGrader.Session
import SqlGrader.Proofs.Plan.Outlines

/-!
# Clauses without effect

Clauses that begin with `ORDER` or `LIMIT` can be put behind any query with a table. No part of the
query takes them in: neither word is a name, nor stands in front of a name, nor goes on inside a
condition. A lenient session then answers as it does without them. Main statement:
`exec_trailing_clause`.
-/

set_option autoImplicit false

namespace SqlGrader

open SqlGrader.Lexer SqlGrader.Parser

namespace Parser

/-! ## Clauses behind a query -/

/-- Kinds that begin with `ORDER` or `LIMIT` and stay inside the statement. -/
structure IgnoredClause (kinds : List TokenKind) : Prop where
  first : kinds.head? = some (.keyword .ORDER) ∨ kinds.head? = some (.keyword .LIMIT)
  inside : Inside kinds

variable {kinds later clause : List TokenKind}

theorem kind_ne_semicolon {tokens : List Token} (whole : tokens.map (·.kind) = kinds ++ [.eof])
    (single : ∀ t ∈ tokens, t.kind ≠ .semicolon) : ∀ kind ∈ kinds, kind ≠ .semicolon := by
  intro kind member
  have inText : kind ∈ tokens.map (·.kind) := whole ▸ List.mem_append_left _ member
  obtain ⟨t, made, rfl⟩ := List.mem_map.1 inText
  exact single t made

theorem ignoredClause_of_tokens {tokens : List Token}
    (whole : tokens.map (·.kind) = clause ++ [.eof]) (noEnd : .eof ∉ clause)
    (first : nextKind? tokens = some (.keyword .ORDER) ∨ nextKind? tokens = some (.keyword .LIMIT))
    (single : ∀ t ∈ tokens, t.kind ≠ .semicolon) : IgnoredClause clause := by
  have next : nextKind? tokens = clause.head?.or (some .eof) := Ends.nextKind? ⟨whole, noEnd⟩
  refine ⟨?_, fun kind member => ⟨kind_ne_semicolon whole single kind member, ?_⟩⟩
  · cases clause with
    | nil => simp [next] at first
    | cons kind clause => simpa [next] using first
  · rintro rfl
    exact noEnd member

theorem IgnoredClause.head?_ne (h : IgnoredClause clause) {kind : TokenKind}
    (absent : later.head? ≠ some kind)
    (different : kind ≠ .keyword .ORDER ∧ kind ≠ .keyword .LIMIT) :
    (later ++ clause).head? ≠ some kind := by
  cases later with
  | nil =>
    rcases h.first with first | first
    · simpa [first] using Ne.symm different.1
    · simpa [first] using Ne.symm different.2
  | cons other later => simpa using absent

theorem IgnoredClause.head?_ends (h : IgnoredClause clause)
    (ends : ∀ kind, later.head? = some kind → EndsClause kind) :
    ∀ kind, (later ++ clause).head? = some kind → EndsClause kind := by
  intro kind first
  cases later with
  | nil =>
    rcases h.first with word | word
    · cases word.symm.trans first
      exact .order
    · cases word.symm.trans first
      exact .limit
  | cons other later => exact ends kind first

/-- An alias, or the place where there is none, stays as it is. -/
theorem SpellsAlias.append (spelled : SpellsAlias kinds later) (h : IgnoredClause clause) :
    SpellsAlias kinds (later ++ clause) := by
  cases spelled with
  | absent noAs noName =>
    exact .absent (h.head?_ne noAs (by simp)) fun name => h.head?_ne (noName name) (by simp)
  | name name => exact .name name
  | dangling noName => exact .dangling fun name => h.head?_ne (noName name) (by simp)
  | named name => exact .named name

/-- A condition ends where it did, recognised or not. -/
theorem SpellsWhere.append {condition? : Option Predicate}
    (spelled : SpellsWhere kinds later condition?) (h : IgnoredClause clause) :
    SpellsWhere kinds (later ++ clause) condition? := by
  cases spelled with
  | absent noWhere => exact .absent (h.head?_ne noWhere (by simp))
  | comparison compares ends => exact .comparison compares (h.head?_ends ends)
  | other nonempty inside nothing ends => exact .other nonempty inside nothing (h.head?_ends ends)

theorem SpellsGroup.append {groupBy? : Option ColumnRef}
    (spelled : SpellsGroup kinds later groupBy?) (h : IgnoredClause clause) :
    SpellsGroup kinds (later ++ clause) groupBy? := by
  cases spelled with
  | absent noGroup => exact .absent (h.head?_ne noGroup (by simp))
  | column names noDot => exact .column names fun plain => h.head?_ne (noDot plain) (by simp)

/-- The clause becomes a part of what is left behind the query. -/
theorem Query.append {query : Select} (h : Query kinds query) (noSemicolon : .semicolon ∉ kinds)
    (ignored : IgnoredClause clause) :
    Query (kinds ++ clause) { query with trailing? := some "" } := by
  obtain @⟨list, label, condition, group, trailing, last, kind, items, table, condition?, groupBy?,
    spelled, read, aliased, restricted, grouped, inside, ends⟩ := h
  obtain rfl : last = [] := by
    rcases ends with none? | semicolon
    · exact none?
    · exact absurd (by simp [semicolon]) noSemicolon
  rw [List.append_nil] at aliased restricted grouped
  have more : trailing ++ clause ≠ [] := by
    intro nothing
    obtain ⟨-, rfl⟩ := List.append_eq_nil_iff.1 nothing
    rcases ignored.first with first | first <;> cases first
  have whole := @Query.of list label condition group (trailing ++ clause) [] kind items table
    condition? groupBy? spelled read (by simpa using aliased.append ignored)
    (by simpa using restricted.append ignored) (by simpa using grouped.append ignored)
    (inside_append.2 ⟨inside, ignored.inside⟩) (.inl rfl)
  rw [trailingOutline, if_neg more] at whole
  simpa using whole

end Parser

/-! ## Lenient answers -/

namespace Session

variable {s : Session} {text other : String} {kinds others : List TokenKind}
  {query outline : Select}

theorem exec_of_query (s : Session) (lexes : LexesTo text.toList kinds) (h : Query kinds outline) :
    ∃ query, s.exec text = (s.answer query).map some ∧ query.outline = outline := by
  obtain ⟨query, parsed, -, same⟩ := (exists_parse_iff_query lexes).2 h
  refine ⟨query, ?_, same⟩
  rw [exec, parsed]

/-- A lenient session answers two queries alike if they have one table, condition and grouping, and
both or neither have a count. -/
theorem exec_lenient_congr (lenient : s.leniency = .lenient) (lexes : LexesTo text.toList kinds)
    (h : Query kinds query) (lexesOther : LexesTo other.toList others) (like : Query others outline)
    (count : query.hasCount = outline.hasCount) (table : query.table? = outline.table?)
    (condition : query.condition? = outline.condition?)
    (group : query.groupBy? = outline.groupBy?) : s.exec text = s.exec other := by
  obtain ⟨first, executed, rfl⟩ := s.exec_of_query lexes h
  obtain ⟨second, executedOther, rfl⟩ := s.exec_of_query lexesOther like
  rw [executed, executedOther, answer, answer, lenient,
    Plan.ofSelect_lenient_congr count table condition group]

/-- A query with a plan is answered exactly when its pattern is built. -/
theorem exists_exec_iff (parsed : Statement.parse text = .ok (.select query))
    (planned : ∃ plan, Plan.ofSelect s.leniency query = .ok plan) :
    (∃ answer, s.exec text = .ok (some answer)) ↔ s.database.BuildsPatternOf query := by
  obtain ⟨plan, planned⟩ := planned
  have executed : s.exec text = (s.database.evaluate plan).map some := by
    rw [exec, parsed]
    simp only [answer, planned]
  rw [executed, ← s.database.exists_evaluate_iff (Plan.isMadeFor_of_ofSelect planned)]
  cases s.database.evaluate plan <;> simp [Except.map]

/-- A lenient session has a plan for every query. -/
theorem exists_plan_of_lenient (lenient : s.leniency = .lenient) (query : Select) :
    ∃ plan, Plan.ofSelect s.leniency query = .ok plan := by
  rw [lenient]
  rcases Plan.ofSelect_cases query with ⟨plan, -, same⟩ | ⟨_, plan, -, -, -, passed⟩
  · exact ⟨plan, same .lenient⟩
  · exact ⟨plan, passed⟩

/-- A strict session refuses a query for the first text that is kept of it. -/
theorem exists_exec_strict (strict : s.leniency = .strict) (lexes : LexesTo text.toList kinds)
    (h : Query kinds query) (ignored : query.ignoredClauses ≠ []) :
    ∃ clause, s.exec text = .error (.unsupportedClause clause) := by
  obtain ⟨found, executed, rfl⟩ := s.exec_of_query lexes h
  obtain ⟨clause, refused⟩ := Plan.exists_ofSelect_strict ignored
  refine ⟨clause, ?_⟩
  rw [executed, Session.answer, strict, refused]
  rfl

/-- Every session has a plan for a query of which no part is kept as text. -/
theorem exists_plan_of_interpreted (s : Session) (interpreted : query.IsInterpreted) :
    ∃ plan, Plan.ofSelect s.leniency query = .ok plan := by
  obtain ⟨plan, -, same⟩ := Plan.exists_ofSelect interpreted
  exact ⟨plan, same s.leniency⟩

/-- Clauses from `ORDER` or `LIMIT` on, in a line behind a query with a table, do not change what a
lenient session answers, whatever the query ends with: a name, an alias or an `AS` without one, a
condition or grouping of any form, or other such clauses. There is an answer unless the library does
not build the pattern of the query. -/
theorem exec_trailing_clause {s : Session} (lenient : s.leniency = .lenient) {sql clauses : String}
    {query : Select} {tokens behind : List Token}
    (parsed : Statement.parse sql = .ok (.select query)) (hasTable : query.table? ≠ none)
    (lexes : tokenize sql = .ok tokens) (single : ∀ t ∈ tokens, t.kind ≠ .semicolon)
    (lexesBehind : tokenize clauses = .ok behind)
    (first : nextKind? behind = some (.keyword .ORDER) ∨ nextKind? behind = some (.keyword .LIMIT))
    (inside : ∀ t ∈ behind, t.kind ≠ .semicolon) :
    s.exec (sql ++ "\n" ++ clauses) = s.exec sql ∧
      ((∃ answer, s.exec sql = .ok (some answer)) ↔ s.database.BuildsPatternOf query) := by
  obtain ⟨kinds, lexesTo, whole⟩ := exists_lexesTo lexes
  obtain ⟨others, lexesToOthers, wholeOthers⟩ := exists_lexesTo lexesBehind
  have ignored := ignoredClause_of_tokens wholeOthers lexesToOthers.eof_notMem first inside
  have read := (exists_parse_iff_query lexesTo).1 ⟨query, parsed, hasTable, rfl⟩
  have noSemicolon : .semicolon ∉ kinds := fun member => kind_ne_semicolon whole single _ member rfl
  have longer := read.append noSemicolon ignored
  have joined := lexesTo.newline lexesToOthers
  have text : (sql ++ "\n" ++ clauses).toList = sql.toList ++ '\n' :: clauses.toList := by
    simp
  rw [← text] at joined
  exact ⟨exec_lenient_congr lenient joined longer lexesTo read rfl rfl rfl rfl,
    exists_exec_iff parsed (exists_plan_of_lenient lenient query)⟩

/-- A condition that is not recognised, an `AS` without a name and clauses of both kinds. -/
theorem exec_trailing_clause_users :
    let s : Session :=
      ⟨⟨[("users", [[.integer 1], [.integer 2]])]⟩, .classroom, .lenient, .row, .builtin⟩
    let sql := "SELECT COUNT(*) FROM users AS WHERE id > 1 AND id > 0"
    s.exec (sql ++ "\n" ++ "ORDER BY id LIMIT 1") = s.exec sql ∧
      ∃ answer, s.exec sql = .ok (some answer) := by
  intro s sql
  have parsed : Statement.parse sql = .ok (.select ⟨[.countAll], some "users",
      some (.unsupported "id > 1 AND id > 0"), none, none⟩) :=
    Lexer.eq_ok_of_toOption (by decide +kernel)
  have query : (tokenize sql).toOption.any (·.all (·.kind ≠ .semicolon)) = true := by
    decide +kernel
  have clauses : (tokenize "ORDER BY id LIMIT 1").toOption.any (fun tokens =>
      nextKind? tokens = some (.keyword .ORDER) ∧ tokens.all (·.kind ≠ .semicolon)) = true := by
    decide +kernel
  obtain ⟨tokens, lexed, single⟩ := (Option.any_eq_true _ _).1 query
  obtain ⟨behind, lexedBehind, rest⟩ := (Option.any_eq_true _ _).1 clauses
  obtain ⟨first, inside⟩ := of_decide_eq_true rest
  obtain ⟨same, answered⟩ := exec_trailing_clause (s := s) rfl parsed (by simp)
    (tokenize_of_toOption lexed) (by simpa using single) (tokenize_of_toOption lexedBehind)
    (.inl first) (by simpa using inside)
  refine ⟨same, answered.2 ?_⟩
  rintro table predicate ⟨⟩ ⟨⟩ column pattern ⟨⟩

end Session

end SqlGrader
