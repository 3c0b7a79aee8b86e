import SqlGrader.Proofs.Session.IgnoredClauses
import SqlGrader.Proofs.Statement.TableQuery

/-!
# Aliases

A word that is no keyword is an alias behind the count of a query and behind its table, and has no
effect on the answer. A keyword is no alias, although it is a name everywhere else: the item that
ends with it is not recognised, and behind the table it begins the clauses without effect. Main
statement: `exec_countAs`.
-/

set_option autoImplicit false

namespace SqlGrader

open SqlGrader.Lexer SqlGrader.Parser

/-! ## Texts -/

/-- The query for the number of rows of a table, with what stands behind the table. -/
def countQuery (table tail : String) : String :=
  "SELECT COUNT(*) FROM " ++ table ++ " " ++ tail

/-- The same query with an alias of the number. -/
def countAsQuery (word table tail : String) : String :=
  "SELECT COUNT(*) AS " ++ word ++ " FROM " ++ table ++ " " ++ tail

/-- The same query with an alias of the table. -/
def countFromAsQuery (word table tail : String) : String :=
  "SELECT COUNT(*) FROM " ++ table ++ " AS " ++ word ++ " " ++ tail

/-- The query for the rows that such a query counts. -/
def rowsQuery (table tail : String) : String :=
  "SELECT * FROM " ++ table ++ " " ++ tail

def RecognisedTail (tail : String) : Prop :=
  ∃ kinds condition? groupBy?, LexesTo tail.toList kinds ∧ SpellsTail kinds condition? groupBy?

variable {table word tail : String} {kinds : List TokenKind}

theorem lexesTo_selectCount : LexesTo "SELECT COUNT(*) FROM".toList [.keyword .SELECT,
    .keyword .COUNT, .leftParen, .star, .rightParen, .keyword .FROM] :=
  lexesTo_of_toOption (by decide +kernel)

theorem lexesTo_countQuery (isTable : IsWord table) (lexes : LexesTo tail.toList kinds) :
    LexesTo (countQuery table tail).toList (.keyword .SELECT :: .keyword .COUNT :: .leftParen ::
      .star :: .rightParen :: .keyword .FROM :: wordKind table.toList :: kinds) := by
  have whole := lexesTo_word_between lexesTo_selectCount (by decide +kernel) isTable lexes
  have text : (countQuery table tail).toList =
      "SELECT COUNT(*) FROM".toList ++ ' ' :: (table.toList ++ ' ' :: tail.toList) := by
    unfold countQuery
    simp
  rw [text]
  exact whole

theorem lexesTo_rowsQuery (isTable : IsWord table) (lexes : LexesTo tail.toList kinds) :
    LexesTo (rowsQuery table tail).toList (.keyword .SELECT :: .star :: .keyword .FROM ::
      wordKind table.toList :: kinds) := by
  have front : LexesTo "SELECT * FROM".toList [.keyword .SELECT, .star, .keyword .FROM] :=
    lexesTo_of_toOption (by decide +kernel)
  have whole := lexesTo_word_between front (by decide +kernel) isTable lexes
  have text : (rowsQuery table tail).toList =
      "SELECT * FROM".toList ++ ' ' :: (table.toList ++ ' ' :: tail.toList) := by
    unfold rowsQuery
    simp
  rw [text]
  exact whole

theorem lexesTo_countAsQuery (isTable : IsWord table) (isWord : IsWord word)
    (lexes : LexesTo tail.toList kinds) :
    LexesTo (countAsQuery word table tail).toList (.keyword .SELECT :: .keyword .COUNT ::
      .leftParen :: .star :: .rightParen :: .keyword .AS :: wordKind word.toList ::
      .keyword .FROM :: wordKind table.toList :: kinds) := by
  have front : LexesTo "SELECT COUNT(*) AS".toList [.keyword .SELECT, .keyword .COUNT, .leftParen,
      .star, .rightParen, .keyword .AS] := lexesTo_of_toOption (by decide +kernel)
  have from? : LexesTo "FROM".toList [.keyword .FROM] := lexesTo_of_toOption (by decide +kernel)
  have whole := lexesTo_word_between front (by decide +kernel) isWord
    (lexesTo_word_between from? (by decide) isTable lexes)
  have text : (countAsQuery word table tail).toList = "SELECT COUNT(*) AS".toList ++ ' ' ::
      (word.toList ++ ' ' :: ("FROM".toList ++ ' ' :: (table.toList ++ ' ' :: tail.toList))) := by
    unfold countAsQuery
    simp
  rw [text]
  exact whole

theorem lexesTo_countFromAsQuery (isTable : IsWord table) (isWord : IsWord word)
    (lexes : LexesTo tail.toList kinds) :
    LexesTo (countFromAsQuery word table tail).toList (.keyword .SELECT :: .keyword .COUNT ::
      .leftParen :: .star :: .rightParen :: .keyword .FROM :: wordKind table.toList ::
      .keyword .AS :: wordKind word.toList :: kinds) := by
  have as? : LexesTo "AS".toList [.keyword .AS] := lexesTo_of_toOption (by decide +kernel)
  have whole := lexesTo_word_between lexesTo_selectCount (by decide +kernel) isTable
    (lexesTo_word_between as? (by decide) isWord lexes)
  have text : (countFromAsQuery word table tail).toList = "SELECT COUNT(*) FROM".toList ++ ' ' ::
      (table.toList ++ ' ' :: ("AS".toList ++ ' ' :: (word.toList ++ ' ' :: tail.toList))) := by
    unfold countFromAsQuery
    simp
  rw [text]
  exact whole

/-! ## Readings -/

theorem wordKind_of_plain (plain : Keyword.ofWord? word.toList = none) :
    wordKind word.toList = .identifier word := by
  rw [wordKind, plain, String.ofList_toList]

theorem wordKind_of_keyword {k : Keyword} (keyword : Keyword.ofWord? word.toList = some k) :
    wordKind word.toList = .keyword k := by
  rw [wordKind, keyword]

variable {named : String} {condition? : Option Predicate} {groupBy? : Option ColumnRef}

/-- The query that counts the rows of a table that meet a condition, perhaps by a column. -/
def Select.counted (table : String) (condition? : Option Predicate) (groupBy? : Option ColumnRef) :
    Select :=
  ⟨[.countAll], some table, condition?, groupBy?, none⟩

theorem parse_countQuery (isTable : IsWord table)
    (read : nameOf? (wordKind table.toList) = some named) (lexes : LexesTo tail.toList kinds)
    (spelled : SpellsTail kinds condition? groupBy?) :
    Statement.parse (countQuery table tail) =
      .ok (.select (.counted named condition? groupBy?)) :=
  parse_of_tail (.last spellsItem_count) (by simp) read spelled.spellsAlias spelled
    (lexesTo_countQuery isTable lexes)

/-- A count with an identifier as its alias is a count. -/
theorem spellsItem_countAs (name : String) : SpellsItem [.keyword .COUNT, .leftParen, .star,
    .rightParen, .keyword .AS, .identifier name] .countAll :=
  ⟨by simp, rfl, rfl⟩

/-- A count with a keyword in the place of its alias is no recognised item. -/
theorem spellsItem_countAs_keyword {k : Keyword} (inItem : k ≠ .FROM) : SpellsItem [.keyword .COUNT,
    .leftParen, .star, .rightParen, .keyword .AS, .keyword k] (.expression "") := by
  refine ⟨by simp, ?_, rfl⟩
  cases k with
  | FROM => exact absurd rfl inItem
  | _ => rfl

theorem parse_countAsQuery (isTable : IsWord table) (isWord : IsWord word)
    (plain : Keyword.ofWord? word.toList = none)
    (read : nameOf? (wordKind table.toList) = some named)
    (lexes : LexesTo tail.toList kinds) (spelled : SpellsTail kinds condition? groupBy?) :
    Statement.parse (countAsQuery word table tail) =
      .ok (.select (.counted named condition? groupBy?)) := by
  have whole := lexesTo_countAsQuery isTable isWord lexes
  rw [wordKind_of_plain plain] at whole
  exact parse_of_tail (.last (spellsItem_countAs word)) (by simp) read spelled.spellsAlias spelled
    whole

theorem parse_countFromAsQuery (isTable : IsWord table) (isWord : IsWord word)
    (plain : Keyword.ofWord? word.toList = none)
    (read : nameOf? (wordKind table.toList) = some named)
    (lexes : LexesTo tail.toList kinds) (spelled : SpellsTail kinds condition? groupBy?) :
    Statement.parse (countFromAsQuery word table tail) =
      .ok (.select (.counted named condition? groupBy?)) := by
  have whole := lexesTo_countFromAsQuery isTable isWord lexes
  rw [wordKind_of_plain plain] at whole
  exact parse_of_tail (.last spellsItem_count) (by simp) read (.named word) spelled whole

/-- Recognised clauses stand inside the statement up to its terminator. -/
theorem Parser.SpellsTail.exists_inside (h : SpellsTail kinds condition? groupBy?) :
    ∃ inner last, kinds = inner ++ last ∧ Inside inner ∧ Terminator last := by
  cases h with
  | bare ends => exact ⟨[], kinds, rfl, inside_nil, ends⟩
  | restricted compares ends =>
    exact ⟨_ :: _, _, rfl, by simpa using compares.within.inside, ends⟩
  | grouped names ends =>
    exact ⟨_ :: _ :: _, _, rfl, by simpa using names.within.inside, ends⟩
  | @both compared columns last predicate column compares names ends =>
    refine ⟨.keyword .WHERE :: (compared ++ .keyword .GROUP :: .keyword .BY :: columns), last,
      by simp, ?_, ends⟩
    simp [compares.within.inside, names.within.inside]

/-- Behind a table and `AS` a keyword that begins no clause is the first word that is left. -/
theorem query_countFromAs_keyword {kind : TokenKind} {k : Keyword}
    (read : nameOf? kind = some named) (spelled : SpellsTail kinds condition? groupBy?)
    (noWhere : k ≠ .WHERE) (noGroup : k ≠ .GROUP) :
    Query (.keyword .SELECT :: .keyword .COUNT :: .leftParen :: .star :: .rightParen ::
        .keyword .FROM :: kind :: .keyword .AS :: .keyword k :: kinds)
      ⟨[.countAll], some named, none, none, some ""⟩ := by
  obtain ⟨inner, last, rfl, inside, ends⟩ := spelled.exists_inside
  exact @Query.of [.keyword .COUNT, .leftParen, .star, .rightParen] [.keyword .AS] [] []
    (.keyword k :: inner) last kind _ _ _ _ (.last spellsItem_count) read (.dangling (by simp))
    (.absent (by simpa using noWhere)) (.absent (by simpa using noGroup)) (by simpa using inside)
    ends

/-! ## Answers -/

namespace Session

/-- In the place of the alias of a count, a keyword makes the query one for the rows. -/
theorem exec_countAsQuery_keyword {s : Session} {k : Keyword} (isTable : IsWord table)
    (isWord : IsWord word) (recognised : RecognisedTail tail)
    (keyword : Keyword.ofWord? word.toList = some k) (inItem : k ≠ .FROM) :
    (s.leniency = .strict →
      ∃ clause, s.exec (countAsQuery word table tail) = .error (.unsupportedClause clause)) ∧
    (s.leniency = .lenient →
      s.exec (countAsQuery word table tail) = s.exec (rowsQuery table tail)) := by
  obtain ⟨kinds, condition?, groupBy?, lexes, spelled⟩ := recognised
  obtain ⟨named, read, -⟩ := exists_name table.toList
  have whole := lexesTo_countAsQuery isTable isWord lexes
  rw [wordKind_of_keyword keyword] at whole
  have query := query_of_tail (.last (spellsItem_countAs_keyword inItem)) read spelled.spellsAlias
    spelled
  constructor
  · intro strict
    exact exists_exec_strict strict whole query (by simp [Select.ignoredClauses])
  · intro lenient
    have rows := query_of_tail (.last spellsItem_star) read spelled.spellsAlias spelled
    exact exec_lenient_congr lenient whole query (lexesTo_rowsQuery isTable lexes) rows rfl rfl rfl
      rfl

/-- In the place of the alias of a table, a keyword takes the clauses behind it along. -/
theorem exec_countFromAsQuery_keyword {s : Session} {k : Keyword} (isTable : IsWord table)
    (isWord : IsWord word) (recognised : RecognisedTail tail)
    (keyword : Keyword.ofWord? word.toList = some k) (noWhere : k ≠ .WHERE) (noGroup : k ≠ .GROUP) :
    (s.leniency = .strict →
      ∃ clause, s.exec (countFromAsQuery word table tail) = .error (.unsupportedClause clause)) ∧
    (s.leniency = .lenient →
      s.exec (countFromAsQuery word table tail) = s.exec (countQuery table "")) := by
  obtain ⟨kinds, condition?, groupBy?, lexes, spelled⟩ := recognised
  obtain ⟨named, read, -⟩ := exists_name table.toList
  have whole := lexesTo_countFromAsQuery isTable isWord lexes
  rw [wordKind_of_keyword keyword] at whole
  have query := query_countFromAs_keyword read spelled noWhere noGroup
  constructor
  · intro strict
    exact exists_exec_strict strict whole query (by simp [Select.ignoredClauses])
  · intro lenient
    have nothing : SpellsTail [] none none := .bare (.inl rfl)
    have counted := query_of_tail (.last spellsItem_count) read nothing.spellsAlias nothing
    have empty : LexesTo "".toList [] := ⟨[], rfl, trivial, rfl⟩
    exact exec_lenient_congr lenient whole query (lexesTo_countQuery isTable empty) counted rfl rfl
      rfl rfl

/-- A query that counts rows is answered unless the library does not build its pattern, and a word
that is no keyword changes nothing as an alias of the count or of the table. A keyword in the place
of an alias is none. Behind the count, it leaves the query for the rows; behind the table it leaves
the count of all rows, unless it is `WHERE` or `GROUP`. A strict session refuses both. -/
theorem exec_countAs (s : Session) {table word tail : String} (isTable : IsWord table)
    (isWord : IsWord word) (recognised : RecognisedTail tail) :
    (∃ query, Statement.parse (countQuery table tail) = .ok (.select query) ∧
      ((∃ answer, s.exec (countQuery table tail) = .ok (some answer)) ↔
        s.database.BuildsPatternOf query)) ∧
    (Keyword.ofWord? word.toList = none →
      s.exec (countAsQuery word table tail) = s.exec (countQuery table tail) ∧
      s.exec (countFromAsQuery word table tail) = s.exec (countQuery table tail)) ∧
    ∀ k, Keyword.ofWord? word.toList = some k →
      (k ≠ .FROM →
        (s.leniency = .strict →
          ∃ clause, s.exec (countAsQuery word table tail) = .error (.unsupportedClause clause)) ∧
        (s.leniency = .lenient →
          s.exec (countAsQuery word table tail) = s.exec (rowsQuery table tail))) ∧
      (k ≠ .WHERE → k ≠ .GROUP →
        (s.leniency = .strict →
          ∃ clause,
            s.exec (countFromAsQuery word table tail) = .error (.unsupportedClause clause)) ∧
        (s.leniency = .lenient →
          s.exec (countFromAsQuery word table tail) = s.exec (countQuery table ""))) := by
  obtain ⟨kinds, condition?, groupBy?, lexes, spelled⟩ := id recognised
  obtain ⟨named, read, -⟩ := exists_name table.toList
  have parsed := parse_countQuery isTable read lexes spelled
  have interpreted : (Select.counted named condition? groupBy?).IsInterpreted :=
    ⟨by simp [Select.counted], spelled.condition_ne, rfl⟩
  refine ⟨⟨_, parsed, exists_exec_iff parsed (s.exists_plan_of_interpreted interpreted)⟩,
    fun plain => ⟨?_, ?_⟩, fun k keyword => ⟨fun inItem => ?_, fun noWhere noGroup => ?_⟩⟩
  · simp only [exec, parsed, parse_countAsQuery isTable isWord plain read lexes spelled]
  · simp only [exec, parsed, parse_countFromAsQuery isTable isWord plain read lexes spelled]
  · exact exec_countAsQuery_keyword isTable isWord recognised keyword inItem
  · exact exec_countFromAsQuery_keyword isTable isWord recognised keyword noWhere noGroup

theorem recognisedTail_greater : RecognisedTail "WHERE id > 1" := by
  have compares : SpellsComparison [.identifier "id", .greater, .integer 1]
      (.greaterThan ⟨none, "id"⟩ (.ofInt64 1)) :=
    .of (.plain "id") (.greaterThan (.plain (.integer 1)))
  exact ⟨_, _, _, lexesTo_of_toOption (by decide +kernel), .restricted compares (.inl rfl)⟩

/-- An identifier behind a count and behind a table named by a keyword, and a keyword in both
places. -/
theorem exec_countAs_order :
    let s : Session := ⟨⟨[("order", [[.integer 1], [.integer 2], [.integer 3]])]⟩, .empty, .lenient,
      .row, .builtin⟩
    s.exec "SELECT COUNT(*) AS total FROM Order WHERE id > 1" =
        s.exec "SELECT COUNT(*) FROM Order WHERE id > 1" ∧
      s.exec "SELECT COUNT(*) FROM Order AS total WHERE id > 1" =
        s.exec "SELECT COUNT(*) FROM Order WHERE id > 1" ∧
      s.exec "SELECT COUNT(*) AS Count FROM Order WHERE id > 1" =
        s.exec "SELECT * FROM Order WHERE id > 1" ∧
      s.exec "SELECT COUNT(*) FROM Order AS Count WHERE id > 1" =
        s.exec "SELECT COUNT(*) FROM Order " := by
  intro s
  have isTable : IsWord "Order" := by decide
  obtain ⟨-, aliased, -⟩ := s.exec_countAs isTable (show IsWord "total" by decide)
    recognisedTail_greater
  obtain ⟨-, -, keyword⟩ := s.exec_countAs isTable (show IsWord "Count" by decide)
    recognisedTail_greater
  obtain ⟨item, behindTable⟩ := keyword .COUNT (by decide)
  exact ⟨(aliased (by decide)).1, (aliased (by decide)).2, (item (by decide)).2 rfl,
    (behindTable (by decide) (by decide)).2 rfl⟩

/-- A keyword other than those that begin a clause changes the answer in both places. -/
theorem not_always_exec_countAs :
    (¬ ∀ (s : Session) (table word tail : String), IsWord table → IsWord word →
      RecognisedTail tail →
      (∀ k ∈ [Keyword.FROM, .WHERE, .GROUP, .ORDER, .LIMIT],
        Keyword.ofWord? word.toList ≠ some k) →
      s.exec (countAsQuery word table tail) = s.exec (countQuery table tail)) ∧
    ¬ ∀ (s : Session) (table word tail : String), IsWord table → IsWord word →
      RecognisedTail tail →
      (∀ k ∈ [Keyword.FROM, .WHERE, .GROUP, .ORDER, .LIMIT],
        Keyword.ofWord? word.toList ≠ some k) →
      s.exec (countFromAsQuery word table tail) = s.exec (countQuery table tail) := by
  let s : Session := ⟨⟨[("t", [[.integer 1], [.integer 2]])]⟩, .empty, .lenient, .row, .builtin⟩
  have counted : s.exec (countQuery "t" "WHERE id > 1") =
      .ok (some ⟨["COUNT(*)"], [[.integer 1]]⟩) := by decide +kernel
  have word : ∀ k ∈ [Keyword.FROM, .WHERE, .GROUP, .ORDER, .LIMIT],
      Keyword.ofWord? "count".toList ≠ some k := by decide
  constructor
  · intro always
    have same := always s "t" "count" _ (by decide) (by decide) recognisedTail_greater word
    rw [counted] at same
    exact absurd same (by decide +kernel)
  · intro always
    have same := always s "t" "count" _ (by decide) (by decide) recognisedTail_greater word
    rw [counted] at same
    exact absurd same (by decide +kernel)

end Session

end SqlGrader
