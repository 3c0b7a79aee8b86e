import SqlGrader.Proofs.Statement.SingleStatement
import SqlGrader.Proofs.Statement.SourceText

/-!
# Conditions

The clause of a condition runs up to the next clause of its query or to the end of the statement.
The reader of comparisons knows nothing of that place and may go on behind it, so that what it read
counts only if it ends there. Main statement: a condition is interpreted exactly when its clause
spells one comparison and nothing else, and the query is read on from the end of the clause in any
case (`parse_condition`).
-/

set_option autoImplicit false

namespace SqlGrader.Parser

/-! ## Comparisons -/

inductive SpellsColumn : List TokenKind → ColumnRef → Prop where
  | plain (column : String) : SpellsColumn [.identifier column] ⟨none, column⟩
  | qualified (table column : String) :
      SpellsColumn [.identifier table, .dot, .identifier column] ⟨some table, column⟩

inductive SpellsUnsigned : TokenKind → Binary64 → Prop where
  | integer (i : Int64) : SpellsUnsigned (.integer i) (.ofInt64 i)
  | float (x : Binary64) : SpellsUnsigned (.float x) x

inductive SpellsNumber : List TokenKind → Binary64 → Prop where
  | plain {kind : TokenKind} {x : Binary64} (read : SpellsUnsigned kind x) : SpellsNumber [kind] x
  | minus {kind : TokenKind} {x : Binary64} (read : SpellsUnsigned kind x) :
      SpellsNumber [.minus, kind] x.neg

inductive SpellsTest (column : ColumnRef) : List TokenKind → Predicate → Prop where
  | like (pattern : String) :
      SpellsTest column [.keyword .LIKE, .string pattern] (.like column pattern)
  | textEquals (value : String) :
      SpellsTest column [.equal, .string value] (.textEquals column value)
  | numberEquals {kinds : List TokenKind} {x : Binary64} (read : SpellsNumber kinds x) :
      SpellsTest column (.equal :: kinds) (.numberEquals column x)
  | greaterThan {kinds : List TokenKind} {x : Binary64} (read : SpellsNumber kinds x) :
      SpellsTest column (.greater :: kinds) (.greaterThan column x)

inductive SpellsComparison : List TokenKind → Predicate → Prop where
  | of {left right : List TokenKind} {column : ColumnRef} {predicate : Predicate}
      (names : SpellsColumn left column) (compares : SpellsTest column right predicate) :
      SpellsComparison (left ++ right) predicate

/-! ## Readers -/

theorem identifier_eq_ok_iff {tokens rest : List Token} {named : String} :
    identifier tokens = .ok (named, rest) ↔ Front [.identifier named] tokens rest := by
  constructor
  · intro h
    unfold identifier at h
    split at h
    · cases h
      simp
    · cases h
  · intro front
    obtain ⟨⟨kind, position⟩, tail, rfl, rfl, nothing⟩ := front_cons.1 front
    obtain rfl := front_nil.1 nothing
    rfl

/-- A column is read with its table if there is a dot behind the first name. -/
theorem columnRef_eq_ok_iff {tokens rest : List Token} {column : ColumnRef} :
    columnRef tokens = .ok (column, rest) ↔
      ∃ kinds, SpellsColumn kinds column ∧ Front kinds tokens rest ∧
        (column.table? = none → nextKind? rest ≠ some .dot) := by
  simp only [columnRef, bind_eq_ok_iff]
  constructor
  · rintro ⟨⟨first, after⟩, read, h⟩
    have front := identifier_eq_ok_iff.1 read
    split at h
    · rename_i noDot
      cases h
      exact ⟨_, .plain first, front, fun _ => skip?_eq_none_iff.1 noDot⟩
    · rename_i behind dot
      obtain ⟨⟨second, last⟩, read, h⟩ := bind_eq_ok_iff.1 h
      cases h
      have name := identifier_eq_ok_iff.1 read
      refine ⟨_, .qualified first second, ?_, by simp⟩
      exact front.trans ((skip?_eq_some_iff.1 dot).trans name)
  · rintro ⟨kinds, spelled, front, noDot⟩
    cases spelled with
    | plain name =>
      refine ⟨(name, rest), identifier_eq_ok_iff.2 front, ?_⟩
      rw [skip?_eq_none_iff.2 (noDot rfl)]
      rfl
    | qualified table name =>
      obtain ⟨after, first, front⟩ := front.cut [.identifier table]
      obtain ⟨behind, dot, second⟩ := front.cut [.dot]
      refine ⟨(table, after), identifier_eq_ok_iff.2 first, ?_⟩
      rw [skip?_eq_some_iff.2 dot]
      exact bind_eq_ok_iff.2 ⟨(name, rest), identifier_eq_ok_iff.2 second, rfl⟩

theorem unsignedNumber?_eq_some_iff {tokens rest : List Token} {x : Binary64} :
    unsignedNumber? tokens = some (x, rest) ↔
      ∃ kind, SpellsUnsigned kind x ∧ Front [kind] tokens rest := by
  constructor
  · intro h
    unfold unsignedNumber? at h
    split at h
    · cases h
      exact ⟨_, .integer _, by simp⟩
    · cases h
      exact ⟨_, .float _, by simp⟩
    · cases h
  · rintro ⟨kind, read, front⟩
    obtain ⟨⟨_, position⟩, tail, rfl, rfl, nothing⟩ := front_cons.1 front
    obtain rfl := front_nil.1 nothing
    cases read <;> rfl

theorem number?_eq_some_iff {tokens rest : List Token} {x : Binary64} :
    number? tokens = some (x, rest) ↔ ∃ kinds, SpellsNumber kinds x ∧ Front kinds tokens rest := by
  unfold number?
  constructor
  · intro h
    split at h
    · rename_i after sign
      obtain ⟨⟨y, last⟩, read, same⟩ := Option.map_eq_some_iff.1 h
      obtain ⟨rfl, rfl⟩ := Prod.mk.inj same
      obtain ⟨kind, spelled, front⟩ := unsignedNumber?_eq_some_iff.1 read
      exact ⟨_, .minus spelled, (skip?_eq_some_iff.1 sign).trans front⟩
    · obtain ⟨kind, spelled, front⟩ := unsignedNumber?_eq_some_iff.1 h
      exact ⟨_, .plain spelled, front⟩
  · rintro ⟨kinds, spelled, front⟩
    cases spelled with
    | @plain kind _ read =>
      have noSign : skip? .minus tokens = none := by
        obtain ⟨t, tail, rfl, rfl, -⟩ := front_cons.1 front
        rw [skip?_eq_none_iff]
        intro sign
        have isMinus : t.kind = .minus := Option.some.inj sign
        rw [isMinus] at read
        cases read
      simp only [noSign]
      exact unsignedNumber?_eq_some_iff.2 ⟨kind, read, front⟩
    | @minus kind y read =>
      obtain ⟨after, sign, front⟩ := front.cut [.minus]
      simp only [skip?_eq_some_iff.2 sign]
      rw [unsignedNumber?_eq_some_iff.2 ⟨kind, read, front⟩]
      rfl

/-- A number is no text. -/
theorem SpellsNumber.nextKind?_ne {kinds : List TokenKind} {x : Binary64} (h : SpellsNumber kinds x)
    {tokens rest : List Token} (front : Front kinds tokens rest) (value : String) :
    nextKind? tokens ≠ some (.string value) := by
  cases h with
  | plain read =>
    obtain ⟨t, tail, rfl, rfl, -⟩ := front_cons.1 front
    intro isText
    have same : t.kind = .string value := Option.some.inj isText
    rw [same] at read
    cases read
  | minus read =>
    obtain ⟨t, tail, rfl, isMinus, -⟩ := front_cons.1 front
    simp [nextKind?, isMinus]

/-- Behind an equals sign stands a number, unless a text does. -/
theorem comparisonOf?_equal {column : ColumnRef} {position : Nat} {rest : List Token}
    (noText : ∀ value, nextKind? rest ≠ some (.string value)) :
    comparisonOf? column (⟨.equal, position⟩ :: rest) =
      (number? rest).map fun (x, rest) => (.numberEquals column x, rest) := by
  unfold comparisonOf?
  split
  · rename_i same
    cases same
  · rename_i value _ _ same
    obtain ⟨-, rfl⟩ := List.cons.inj same
    exact absurd rfl (noText value)
  · rename_i same
    obtain ⟨-, rfl⟩ := List.cons.inj same
    rfl
  · rename_i same
    cases same
  · rename_i equal _
    exact absurd rfl (equal position rest)

theorem comparisonOf?_eq_some_iff {column : ColumnRef} {tokens rest : List Token}
    {predicate : Predicate} :
    comparisonOf? column tokens = some (predicate, rest) ↔
      ∃ kinds, SpellsTest column kinds predicate ∧ Front kinds tokens rest := by
  constructor
  · intro h
    unfold comparisonOf? at h
    split at h
    · cases h
      exact ⟨_, .like _, by simp⟩
    · cases h
      exact ⟨_, .textEquals _, by simp⟩
    · obtain ⟨⟨x, last⟩, read, same⟩ := Option.map_eq_some_iff.1 h
      obtain ⟨rfl, rfl⟩ := Prod.mk.inj same
      obtain ⟨kinds, spelled, front⟩ := number?_eq_some_iff.1 read
      exact ⟨_, .numberEquals spelled, by simpa using front⟩
    · obtain ⟨⟨x, last⟩, read, same⟩ := Option.map_eq_some_iff.1 h
      obtain ⟨rfl, rfl⟩ := Prod.mk.inj same
      obtain ⟨kinds, spelled, front⟩ := number?_eq_some_iff.1 read
      exact ⟨_, .greaterThan spelled, by simpa using front⟩
    · cases h
  · rintro ⟨kinds, spelled, front⟩
    cases spelled with
    | like pattern =>
      obtain ⟨⟨_, place⟩, tail, rfl, rfl, behind⟩ := front_cons.1 front
      obtain ⟨⟨_, place'⟩, tail, rfl, rfl, nothing⟩ := front_cons.1 behind
      obtain rfl := front_nil.1 nothing
      rfl
    | textEquals value =>
      obtain ⟨⟨_, place⟩, tail, rfl, rfl, behind⟩ := front_cons.1 front
      obtain ⟨⟨_, place'⟩, tail, rfl, rfl, nothing⟩ := front_cons.1 behind
      obtain rfl := front_nil.1 nothing
      rfl
    | @numberEquals kinds x read =>
      obtain ⟨⟨_, place⟩, tail, rfl, rfl, behind⟩ := front_cons.1 front
      rw [comparisonOf?_equal (read.nextKind?_ne behind),
        number?_eq_some_iff.2 ⟨kinds, read, behind⟩]
      rfl
    | @greaterThan kinds x read =>
      obtain ⟨⟨_, place⟩, tail, rfl, rfl, behind⟩ := front_cons.1 front
      simp only [comparisonOf?, number?_eq_some_iff.2 ⟨kinds, read, behind⟩]
      rfl

theorem SpellsTest.nextKind?_ne_dot {column : ColumnRef} {kinds : List TokenKind}
    {predicate : Predicate} (h : SpellsTest column kinds predicate) {tokens rest : List Token}
    (front : Front kinds tokens rest) : nextKind? tokens ≠ some .dot := by
  cases h <;> obtain ⟨t, tail, rfl, first, -⟩ := front_cons.1 front <;> simp [nextKind?, first]

/-- A comparison is read wherever it stands, whatever follows it. -/
theorem comparison?_eq_some_iff {tokens rest : List Token} {predicate : Predicate} :
    comparison? tokens = some (predicate, rest) ↔
      ∃ kinds, SpellsComparison kinds predicate ∧ Front kinds tokens rest := by
  unfold comparison?
  constructor
  · intro h
    split at h
    · cases h
    · rename_i column after read
      obtain ⟨left, names, front, -⟩ := columnRef_eq_ok_iff.1 read
      obtain ⟨right, compares, behind⟩ := comparisonOf?_eq_some_iff.1 h
      exact ⟨left ++ right, .of names compares, front.trans behind⟩
  · rintro ⟨kinds, spelled, front⟩
    obtain ⟨names, compares⟩ := spelled
    obtain ⟨after, front, behind⟩ := front_append.1 front
    have read := columnRef_eq_ok_iff.2 ⟨_, names, front, fun _ => compares.nextKind?_ne_dot behind⟩
    rw [read]
    exact comparisonOf?_eq_some_iff.2 ⟨_, compares, behind⟩

/-! ## Clauses -/

inductive EndsClause : TokenKind → Prop where
  | group : EndsClause (.keyword .GROUP)
  | order : EndsClause (.keyword .ORDER)
  | limit : EndsClause (.keyword .LIMIT)
  | semicolon : EndsClause .semicolon
  | eof : EndsClause .eof

theorem endsClause_iff {kind : TokenKind} :
    EndsClause kind ↔ kind = .keyword .GROUP ∨ kind = .keyword .ORDER ∨ kind = .keyword .LIMIT ∨
      kind = .semicolon ∨ kind = .eof := by
  constructor
  · rintro (_ | _ | _ | _ | _) <;> simp
  · rintro (rfl | rfl | rfl | rfl | rfl) <;> constructor

theorem insideCondition_eq_false_iff {t : Token} :
    insideCondition t = false ↔ EndsClause t.kind := by
  rw [endsClause_iff]
  simp only [insideCondition, ne_eq, decide_not, Bool.and_eq_false_iff, Bool.not_eq_false',
    decide_eq_true_eq, or_assoc]

theorem insideCondition_eq_true_iff {t : Token} :
    insideCondition t = true ↔ ¬ EndsClause t.kind := by
  rw [← insideCondition_eq_false_iff, Bool.not_eq_false]

/-- A clause of a condition and the tokens behind it. -/
structure Clause (tokens clause stop : List Token) : Prop where
  whole : tokens = clause ++ stop
  inside : ∀ t ∈ clause, ¬ EndsClause t.kind
  ends : ∃ last later, stop = last :: later ∧ EndsClause last.kind

theorem Clause.cut {tokens clause stop : List Token} (h : Clause tokens clause stop) :
    tokens.takeWhile insideCondition = clause ∧ tokens.dropWhile insideCondition = stop := by
  obtain ⟨rfl, inside, last, later, rfl, ending⟩ := h
  apply Text.takeWhile_front
  · intro t member
    exact insideCondition_eq_true_iff.2 (inside t member)
  · intro t head
    obtain rfl := Option.some.inj head
    exact insideCondition_eq_false_iff.2 ending

/-- Tokens with the end of the text among them begin with a clause. -/
theorem exists_clause {tokens : List Token} (ends : ∃ t ∈ tokens, t.kind = .eof) :
    ∃ clause stop, Clause tokens clause stop := by
  obtain ⟨inside, stops⟩ := Text.longest_front (p := insideCondition) tokens
  refine ⟨tokens.takeWhile insideCondition, tokens.dropWhile insideCondition,
    List.takeWhile_append_dropWhile.symm, ?_, ?_⟩
  · intro t member
    exact insideCondition_eq_true_iff.1 (inside t member)
  · cases rest : tokens.dropWhile insideCondition with
    | nil =>
      obtain ⟨t, member, isEnd⟩ := ends
      have whole : tokens.takeWhile insideCondition = tokens := by
        simpa [rest] using List.takeWhile_append_dropWhile (p := insideCondition) (l := tokens)
      have goes := insideCondition_eq_true_iff.1 (inside t (whole.symm ▸ member))
      rw [isEnd] at goes
      exact absurd .eof goes
    | cons last later =>
      have stopped := stops last (by rw [rest]; rfl)
      exact ⟨last, later, rfl, insideCondition_eq_false_iff.1 stopped⟩

theorem condition_of_empty {source : List Char} {tokens stop : List Token}
    (h : Clause tokens [] stop) :
    condition source tokens = .error (unexpected .predicate tokens) := by
  unfold condition
  rw [h.cut.1]

/-- A comparison that ends where the clause does is all of the clause. -/
theorem Clause.recognised_iff {tokens clause stop rest : List Token} (h : Clause tokens clause stop)
    {predicate : Predicate} :
    (comparison? tokens).filter (fun read => read.2.length = stop.length) =
        some (predicate, rest) ↔
      rest = stop ∧ SpellsComparison (clause.map (·.kind)) predicate := by
  rw [Option.filter_eq_some_iff, comparison?_eq_some_iff]
  constructor
  · rintro ⟨⟨kinds, spelled, front, whole, rfl⟩, length⟩
    obtain ⟨rfl, rfl⟩ := List.append_inj' (whole.symm.trans h.whole) (by simpa using length)
    exact ⟨rfl, spelled⟩
  · rintro ⟨rfl, spelled⟩
    exact ⟨⟨_, spelled, clause, h.whole, rfl⟩, by simp⟩

/-- What is made of a clause: the comparison that it spells, or else its text. -/
theorem condition_of_clause {source : List Char} {tokens clause stop : List Token}
    (h : Clause tokens clause stop) (nonempty : clause ≠ []) :
    ∃ predicate, condition source tokens = .ok (predicate, stop) ∧
      (∀ p, SpellsComparison (clause.map (·.kind)) p → predicate = p) ∧
      ((∀ p, ¬ SpellsComparison (clause.map (·.kind)) p) →
        predicate = .unsupported (textBetween source tokens stop)) := by
  obtain ⟨taken, dropped⟩ := h.cut
  obtain ⟨first, others, rfl⟩ := List.exists_cons_of_ne_nil nonempty
  simp only [condition, taken, dropped]
  -- what the reader took counts only if it ended in front of the same tokens
  cases recognised : (comparison? tokens).filter fun read => read.2.length = stop.length with
  | none =>
    refine ⟨_, rfl, fun p spelled => ?_, fun _ => rfl⟩
    rw [h.recognised_iff.2 ⟨rfl, spelled⟩] at recognised
    cases recognised
  | some read =>
    obtain ⟨predicate, rest⟩ := read
    refine ⟨predicate, rfl, fun p spelled => ?_, fun nothing => ?_⟩
    · rw [h.recognised_iff.2 ⟨rfl, spelled⟩] at recognised
      cases recognised
      rfl
    · exact absurd (h.recognised_iff.1 recognised).2 (nothing predicate)

/-! ## Queries -/

/-- The tokens behind the `WHERE` of a query whose items and table have been read. -/
def BehindWhere (source : List Char) (tokens : List Token) (items : List SelectItem)
    (table : String) (rest : List Token) : Prop :=
  ∃ afterSelect afterItems afterFrom afterTable,
    expect (.keyword .SELECT) tokens = .ok afterSelect ∧
    selectItems source afterSelect = .ok (items, afterItems) ∧
    skip? (.keyword .FROM) afterItems = some afterFrom ∧
    name afterFrom = .ok (table, afterTable) ∧
    skip? (.keyword .WHERE) (skipAlias afterTable) = some rest

/-- What is read of a query behind its condition. -/
def afterCondition (source : List Char) (items : List SelectItem) (table : String)
    (predicate : Predicate) (tokens : List Token) : Except ParseError (Reading Statement) := do
  let (groupBy?, rest) ← groupClause tokens
  let (trailing?, rest) := trailing source rest
  return (.select ⟨items, some table, some predicate, groupBy?, trailing?⟩, rest)

variable {source : List Char} {tokens rest : List Token} {items : List SelectItem} {table : String}

theorem BehindWhere.passes (h : BehindWhere source tokens items table rest) :
    Passes tokens rest := by
  obtain ⟨_, _, _, _, select, read, from?, named, where?⟩ := h
  exact (passes_of_expect select (by simp)).trans <| (passes_of_selectItems read).trans <|
    (passes_of_skip? from? (by simp)).trans <| (passes_of_name named).trans <|
      (passes_skipAlias _).trans (passes_of_skip? where? (by simp))

/-- Behind `WHERE` the condition is read, and the rest of the query behind it. -/
theorem BehindWhere.body_eq (h : BehindWhere source tokens items table rest) :
    body source tokens = (condition source rest >>= fun read =>
      afterCondition source items table read.1 read.2) := by
  obtain ⟨afterSelect, afterItems, afterFrom, afterTable, expected, read, from?, named, where?⟩ := h
  have asSelect : body source tokens = select source tokens := by
    obtain ⟨t, tail, rfl, isSelect, -⟩ := front_cons.1 (expect_eq_ok_iff.1 expected)
    simp only [body, isSelect]
  rw [asSelect]
  simp only [select, expected, read, from?, named, whereClause, where?, bind, Except.bind, pure,
    Except.pure]
  cases condition source rest <;> rfl

/-- What a query comes to if it is one: its condition is the one read. -/
theorem select_of_afterCondition {predicate : Predicate} {parsed : Statement} {after : List Token}
    (h : afterCondition source items table predicate rest = .ok (parsed, after)) :
    ∃ groupBy? trailing?,
      parsed = .select ⟨items, some table, some predicate, groupBy?, trailing?⟩ := by
  obtain ⟨⟨groupBy?, behind⟩, -, h⟩ := bind_eq_ok_iff.1 h
  cases h
  exact ⟨_, _, rfl⟩

theorem parse_eq {text : String} (lexes : tokenize text = .ok tokens) :
    Statement.parse text = (body text.toList tokens >>= fun read => do
      let _ ← expect .eof ((skip? .semicolon read.2).getD read.2)
      return read.1) := by
  rw [Statement.parse, lexes]
  rfl

/-- The clause of a condition runs up to `GROUP`, `ORDER`, `LIMIT`, a semicolon or the end. If it is
empty the text is no statement. If it is one comparison, the query has that as its condition, and
if it is anything else, the text of the clause. Either way the query is read on from the end of the
clause. -/
theorem parse_condition {text : String} (lexes : tokenize text = .ok tokens)
    (behind : BehindWhere text.toList tokens items table rest) :
    ∃ clause stop, Clause rest clause stop ∧
      (clause = [] → Statement.parse text = .error (unexpected .predicate rest)) ∧
      (clause ≠ [] → ∃ predicate,
        body text.toList tokens = afterCondition text.toList items table predicate stop ∧
        (∀ parsed, Statement.parse text = .ok parsed → ∃ groupBy? trailing?,
          parsed = .select ⟨items, some table, some predicate, groupBy?, trailing?⟩) ∧
        (∀ p, SpellsComparison (clause.map (·.kind)) p → predicate = p) ∧
        ((∀ p, ¬ SpellsComparison (clause.map (·.kind)) p) → ∃ inside first last,
          clause.head? = some first ∧ stop.head? = some last ∧
          Text.Between text.toList inside first.position last.position ∧
          predicate = .unsupported (String.ofList (Unicode.trim inside)))) := by
  obtain ⟨kinds, inside, front⟩ := behind.passes
  obtain ⟨ts, whole, rfl⟩ := front
  -- no reader in front of the condition passes the end of the text
  have ends : ∃ t ∈ rest, t.kind = .eof := by
    obtain ⟨spans, -, lexed, same⟩ := Lexer.tokenize_eq_ok_iff.1 lexes
    obtain ⟨later, -, ended⟩ := Ends.after (same ▸ lexed.ends 0) ⟨ts, whole, rfl⟩ inside.eof_notMem
    have member : TokenKind.eof ∈ rest.map (·.kind) := by simp [ended.front]
    exact List.mem_map.1 member
  obtain ⟨clause, stop, cut⟩ := exists_clause ends
  refine ⟨clause, stop, cut, ?_, fun nonempty => ?_⟩
  · rintro rfl
    rw [parse_eq lexes, behind.body_eq, condition_of_empty cut]
    rfl
  · obtain ⟨predicate, read, comparison, other⟩ :=
      @condition_of_clause text.toList rest clause stop cut nonempty
    have read_on : body text.toList tokens =
        afterCondition text.toList items table predicate stop := by
      rw [behind.body_eq, read]
      rfl
    refine ⟨predicate, read_on, fun parsed succeeds => ?_, comparison, fun nothing => ?_⟩
    · rw [parse_eq lexes, read_on] at succeeds
      obtain ⟨⟨statement, after⟩, queried, succeeds⟩ := bind_eq_ok_iff.1 succeeds
      obtain ⟨_, -, same⟩ := bind_eq_ok_iff.1 succeeds
      cases same
      exact select_of_afterCondition queried
    · obtain ⟨first, others, rfl⟩ := List.exists_cons_of_ne_nil nonempty
      obtain ⟨last, later, rfl, -⟩ := cut.ends
      have place : tokens = ts ++ first :: (others ++ last :: later) := by
        rw [whole, cut.whole]
        rfl
      obtain ⟨inner, between, kept⟩ := exists_textBetween lexes place
      refine ⟨inner, first, last, rfl, rfl, between, ?_⟩
      rw [other nothing, cut.whole]
      exact congrArg Predicate.unsupported kept

example : (Statement.parse "SELECT * FROM t WHERE a = 1 AND b = 2 LIMIT 3").toOption =
    some (.select ⟨[.allColumns], some "t", some (.unsupported "a = 1 AND b = 2"), none,
      some "LIMIT 3"⟩) := by
  decide +kernel

/-- A column with an alias of its table, and a number with a minus in front of the next clause. -/
theorem parse_condition_negative :
    let text := "SELECT name FROM users u WHERE u.id = -3 GROUP BY name"
    let items : List SelectItem := [.column ⟨none, "name"⟩]
    let predicate : Predicate := .numberEquals ⟨some "u", "id"⟩ (.neg (.ofInt64 3))
    ∃ tokens rest clause stop, tokenize text = .ok tokens ∧
      BehindWhere text.toList tokens items "users" rest ∧ Clause rest clause stop ∧
      body text.toList tokens = afterCondition text.toList items "users" predicate stop := by
  intro text items predicate
  let tokens : List Token := [⟨.keyword .SELECT, 0⟩, ⟨.identifier "name", 7⟩, ⟨.keyword .FROM, 12⟩,
    ⟨.identifier "users", 17⟩, ⟨.identifier "u", 23⟩, ⟨.keyword .WHERE, 25⟩, ⟨.identifier "u", 31⟩,
    ⟨.dot, 32⟩, ⟨.identifier "id", 33⟩, ⟨.equal, 36⟩, ⟨.minus, 38⟩, ⟨.integer 3, 39⟩,
    ⟨.keyword .GROUP, 41⟩, ⟨.keyword .BY, 47⟩, ⟨.identifier "name", 50⟩, ⟨.eof, 54⟩]
  have lexes : tokenize text = .ok tokens := Lexer.tokenize_of_toOption (by decide +kernel)
  have behind : BehindWhere text.toList tokens items "users" (tokens.drop 6) :=
    ⟨tokens.drop 1, tokens.drop 2, tokens.drop 3, tokens.drop 4, rfl,
      Lexer.eq_ok_of_toOption (by decide +kernel), rfl, rfl, rfl⟩
  have parsed : Statement.parse text =
      .ok (.select ⟨items, some "users", some predicate, some ⟨none, "name"⟩, none⟩) :=
    Lexer.eq_ok_of_toOption (by decide +kernel)
  obtain ⟨clause, stop, cut, empty, other⟩ := parse_condition lexes behind
  have nonempty : clause ≠ [] := by
    intro nothing
    rw [empty nothing] at parsed
    cases parsed
  obtain ⟨found, read_on, interpreted, -⟩ := other nonempty
  obtain ⟨_, _, same⟩ := interpreted _ parsed
  cases same
  exact ⟨_, _, clause, stop, lexes, behind, cut, read_on⟩

end SqlGrader.Parser
