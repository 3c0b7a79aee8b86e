import SqlGrader.Proofs.Statement.Conditions
import SqlGrader.Proofs.Statement.SelectItems
import SqlGrader.Proofs.Token.JoinedTexts

/-!
# The grammar of queries

A query is read from the left, and each part that may be left out is taken whenever it stands
there. `Query` gives the grammar of queries with a table: a part that is left out says what may not
stand in its place. The texts that are kept of a query are no part of the grammar, since they hang
on the places of the tokens; `outline` leaves them empty. Main statement: a text is read as a query
with a table exactly when its tokens are those of the grammar (`exists_parse_iff_query`).
-/

set_option autoImplicit false

namespace SqlGrader

/-- A condition without the text of what is not recognised. -/
def Predicate.outline : Predicate → Predicate
  | .unsupported _ => .unsupported ""
  | predicate => predicate

/-- A query with every text that is kept of it left empty. -/
def Select.outline (query : Select) : Select :=
  ⟨query.items.map .outline, query.table?, query.condition?.map .outline, query.groupBy?,
    query.trailing?.map fun _ => ""⟩

namespace Parser

/-! ## Tokens up to the end -/

theorem Ends.cut (kinds : List TokenKind) {later : List TokenKind} {tokens : List Token}
    (h : Ends (kinds ++ later) tokens) : ∃ rest, Front kinds tokens rest ∧ Ends later rest := by
  obtain ⟨whole, inside⟩ := h
  rw [List.append_assoc] at whole
  obtain ⟨front, rest, rfl, rfl, behind⟩ := List.map_eq_append_iff.1 whole
  exact ⟨rest, ⟨front, rfl, rfl⟩, behind, fun member => inside (List.mem_append_right _ member)⟩

theorem Ends.skip?_eq_none {kind : TokenKind} {kinds : List TokenKind} {tokens : List Token}
    (h : Ends kinds tokens) (inside : kind ≠ .eof) (absent : kinds.head? ≠ some kind) :
    skip? kind tokens = none := by
  rw [skip?_eq_none_iff, h.nextKind?]
  cases kinds with
  | nil => simpa using Ne.symm inside
  | cons first later => simpa using absent

theorem Ends.skip?_eq_some {kind : TokenKind} {kinds : List TokenKind} {tokens : List Token}
    (h : Ends (kind :: kinds) tokens) :
    ∃ rest, skip? kind tokens = some rest ∧ Ends kinds rest := by
  obtain ⟨rest, front, ends⟩ := Ends.cut [kind] h
  exact ⟨rest, skip?_eq_some_iff.2 front, ends⟩

/-- What stands next is no kind that the tokens do not begin with, short of the end. -/
theorem Ends.nextKind?_ne {kind : TokenKind} {kinds : List TokenKind} {tokens : List Token}
    (h : Ends kinds tokens) (inside : kind ≠ .eof) (absent : kinds.head? ≠ some kind) :
    Parser.nextKind? tokens ≠ some kind :=
  skip?_eq_none_iff.1 (h.skip?_eq_none inside absent)

theorem Ends.head?_ne {kind : TokenKind} {kinds : List TokenKind} {tokens : List Token}
    (h : Ends kinds tokens) (absent : Parser.nextKind? tokens ≠ some kind) :
    kinds.head? ≠ some kind := by
  intro first
  rw [h.nextKind?, first, Option.some_or] at absent
  exact absent rfl

variable {source : List Char} {tokens rest : List Token}

/-! ## Aliases of the table -/

/-- Kinds that make up an alias in front of others. An `AS` without a name is dropped as well. -/
inductive SpellsAlias : List TokenKind → List TokenKind → Prop where
  | absent {later : List TokenKind} (noAs : later.head? ≠ some (.keyword .AS))
      (noName : ∀ name, later.head? ≠ some (.identifier name)) : SpellsAlias [] later
  | name {later : List TokenKind} (name : String) : SpellsAlias [.identifier name] later
  | dangling {later : List TokenKind} (noName : ∀ name, later.head? ≠ some (.identifier name)) :
      SpellsAlias [.keyword .AS] later
  | named {later : List TokenKind} (name : String) :
      SpellsAlias [.keyword .AS, .identifier name] later

def afterIdentifier : List Token → List Token
  | ⟨.identifier _, _⟩ :: rest => rest
  | rest => rest

theorem skipAlias_eq (tokens : List Token) :
    skipAlias tokens = afterIdentifier ((skip? (.keyword .AS) tokens).getD tokens) := rfl

theorem Ends.afterIdentifier {kinds : List TokenKind} {name : String}
    (h : Ends (.identifier name :: kinds) tokens) : Ends kinds (afterIdentifier tokens) := by
  obtain ⟨rest, front, ends⟩ := Ends.cut [.identifier name] h
  obtain ⟨⟨kind, position⟩, tail, rfl, rfl, nothing⟩ := front_cons.1 front
  obtain rfl := front_nil.1 nothing
  exact ends

theorem Ends.afterIdentifier_eq {kinds : List TokenKind} (h : Ends kinds tokens)
    (noName : ∀ name, kinds.head? ≠ some (.identifier name)) :
    Parser.afterIdentifier tokens = tokens := by
  unfold Parser.afterIdentifier
  split
  · rename_i name position rest
    have first := h.nextKind?_ne (by simp) (noName name)
    exact absurd rfl first
  · rfl

theorem ends_skipAlias {label later : List TokenKind} (spelled : SpellsAlias label later)
    (h : Ends (label ++ later) tokens) : Ends later (skipAlias tokens) := by
  rw [skipAlias_eq]
  cases spelled with
  | absent noAs noName =>
    rw [h.skip?_eq_none (by simp) noAs, Option.getD_none, h.afterIdentifier_eq noName]
    exact h
  | name name =>
    rw [h.skip?_eq_none (by simp) (by simp), Option.getD_none]
    exact h.afterIdentifier
  | dangling noName =>
    obtain ⟨rest, taken, ends⟩ := h.skip?_eq_some
    rw [taken, Option.getD_some, ends.afterIdentifier_eq noName]
    exact ends
  | named name =>
    obtain ⟨rest, taken, ends⟩ := h.skip?_eq_some
    rw [taken, Option.getD_some]
    exact ends.afterIdentifier

/-- Whatever stands behind a table begins with an alias or with none. -/
theorem exists_alias (kinds : List TokenKind) :
    ∃ label later, kinds = label ++ later ∧ SpellsAlias label later := by
  have named : ∀ kinds : List TokenKind, (∃ name later, kinds = .identifier name :: later) ∨
      ∀ name, kinds.head? ≠ some (.identifier name) := by
    intro kinds
    by_cases first : ∃ name, kinds.head? = some (.identifier name)
    · obtain ⟨name, first⟩ := first
      obtain ⟨later, whole⟩ := List.head?_eq_some_iff.1 first
      exact .inl ⟨name, later, whole⟩
    · exact .inr (not_exists.1 first)
  by_cases isAs : kinds.head? = some (.keyword .AS)
  · obtain ⟨behind, rfl⟩ := List.head?_eq_some_iff.1 isAs
    rcases named behind with ⟨name, later, rfl⟩ | noName
    · exact ⟨[.keyword .AS, .identifier name], later, rfl, .named name⟩
    · exact ⟨[.keyword .AS], behind, rfl, .dangling noName⟩
  · rcases named kinds with ⟨name, later, rfl⟩ | noName
    · exact ⟨[.identifier name], later, rfl, .name name⟩
    · exact ⟨[], kinds, rfl, .absent isAs noName⟩

/-! ## Clauses -/

inductive SpellsWhere : List TokenKind → List TokenKind → Option Predicate → Prop where
  | absent {later : List TokenKind} (noWhere : later.head? ≠ some (.keyword .WHERE)) :
      SpellsWhere [] later none
  | comparison {kinds later : List TokenKind} {predicate : Predicate}
      (spelled : SpellsComparison kinds predicate)
      (ends : ∀ kind, later.head? = some kind → EndsClause kind) :
      SpellsWhere (.keyword .WHERE :: kinds) later (some predicate)
  | other {kinds later : List TokenKind} (nonempty : kinds ≠ [])
      (inside : ∀ kind ∈ kinds, ¬ EndsClause kind)
      (nothing : ∀ predicate, ¬ SpellsComparison kinds predicate)
      (ends : ∀ kind, later.head? = some kind → EndsClause kind) :
      SpellsWhere (.keyword .WHERE :: kinds) later (some (.unsupported ""))

inductive SpellsGroup : List TokenKind → List TokenKind → Option ColumnRef → Prop where
  | absent {later : List TokenKind} (noGroup : later.head? ≠ some (.keyword .GROUP)) :
      SpellsGroup [] later none
  | column {kinds later : List TokenKind} {column : ColumnRef} (spelled : SpellsColumn kinds column)
      (noDot : column.table? = none → later.head? ≠ some .dot) :
      SpellsGroup (.keyword .GROUP :: .keyword .BY :: kinds) later (some column)

/-- The clauses that are left, without their text. -/
def trailingOutline (kinds : List TokenKind) : Option String :=
  if kinds = [] then none else some ""

/-- Kinds that stand inside one clause: none ends it. -/
def WithinClause (kinds : List TokenKind) : Prop :=
  ∀ kind ∈ kinds, ¬ EndsClause kind

/-- What ends a statement ends each of its clauses. -/
theorem WithinClause.inside {kinds : List TokenKind} (h : WithinClause kinds) : Inside kinds := by
  intro kind member
  constructor
  · rintro rfl
    exact h _ member .semicolon
  · rintro rfl
    exact h _ member .eof

theorem SpellsColumn.within {kinds : List TokenKind} {column : ColumnRef}
    (h : SpellsColumn kinds column) : WithinClause kinds := by
  cases h <;> simp [WithinClause, endsClause_iff]

theorem SpellsNumber.within {kinds : List TokenKind} {x : Binary64} (h : SpellsNumber kinds x) :
    WithinClause kinds := by
  cases h with
  | plain read => cases read <;> simp [WithinClause, endsClause_iff]
  | minus read => cases read <;> simp [WithinClause, endsClause_iff]

theorem SpellsTest.within {column : ColumnRef} {kinds : List TokenKind} {predicate : Predicate}
    (h : SpellsTest column kinds predicate) : WithinClause kinds := by
  cases h with
  | like => simp [WithinClause, endsClause_iff]
  | textEquals => simp [WithinClause, endsClause_iff]
  | numberEquals read => exact List.forall_mem_cons.2 ⟨by simp [endsClause_iff], read.within⟩
  | greaterThan read => exact List.forall_mem_cons.2 ⟨by simp [endsClause_iff], read.within⟩

variable {kinds later : List TokenKind} {predicate : Predicate}

theorem SpellsComparison.within (h : SpellsComparison kinds predicate) : WithinClause kinds := by
  obtain ⟨names, compares⟩ := h
  exact List.forall_mem_append.2 ⟨names.within, compares.within⟩

theorem SpellsComparison.ne_nil (h : SpellsComparison kinds predicate) : kinds ≠ [] := by
  obtain ⟨names, -⟩ := h
  cases names <;> simp

/-- A comparison has no text. -/
theorem SpellsComparison.outline_eq (h : SpellsComparison kinds predicate) :
    predicate.outline = predicate := by
  obtain ⟨-, compares⟩ := h
  cases compares <;> rfl

/-- Kinds that stand inside a clause, and what ends it, are those of a clause. -/
theorem Ends.clause (h : Ends (kinds ++ later) tokens) (within : WithinClause kinds)
    (ends : ∀ kind, later.head? = some kind → EndsClause kind) :
    ∃ clause stop, Clause tokens clause stop ∧ clause.map (·.kind) = kinds ∧ Ends later stop := by
  obtain ⟨stop, ⟨clause, whole, rfl⟩, behind⟩ := h.cut
  refine ⟨clause, stop, ⟨whole, fun t member => within _ (List.mem_map_of_mem member), ?_⟩, rfl,
    behind⟩
  have next := behind.nextKind?
  cases stop with
  | nil => cases later <;> simp [Parser.nextKind?] at next
  | cons last others =>
    refine ⟨last, others, rfl, ?_⟩
    cases later with
    | nil =>
      have isEnd : last.kind = .eof := Option.some.inj next
      exact isEnd ▸ .eof
    | cons kind later =>
      have same : last.kind = kind := Option.some.inj next
      exact same ▸ ends kind rfl

theorem Clause.ends_head? {clause stop : List Token} (h : Clause tokens clause stop)
    (behind : Ends later stop) : ∀ kind, later.head? = some kind → EndsClause kind := by
  obtain ⟨-, -, last, others, rfl, ending⟩ := h
  intro kind first
  have next := behind.nextKind?
  rw [first] at next
  have same : last.kind = kind := Option.some.inj next
  exact same ▸ ending

theorem exists_whereClause {outline? : Option Predicate}
    (spelled : SpellsWhere kinds later outline?) (h : Ends (kinds ++ later) tokens) :
    ∃ condition? rest, whereClause source tokens = .ok (condition?, rest) ∧
      condition?.map .outline = outline? ∧ Ends later rest := by
  cases spelled with
  | absent noWhere =>
    refine ⟨none, tokens, ?_, rfl, h⟩
    rw [whereClause, h.skip?_eq_none (by simp) noWhere]
  | comparison spelled ends =>
    obtain ⟨inner, taken, behind⟩ := h.skip?_eq_some
    obtain ⟨clause, stop, cut, rfl, after⟩ := behind.clause spelled.within ends
    have nonempty : clause ≠ [] := fun nothing => spelled.ne_nil (by rw [nothing]; rfl)
    obtain ⟨predicate, read, comparison, -⟩ := @condition_of_clause source _ _ _ cut nonempty
    refine ⟨some predicate, stop, ?_, ?_, after⟩
    · rw [whereClause, taken]
      exact bind_eq_ok_iff.2 ⟨_, read, rfl⟩
    · rw [comparison _ spelled, Option.map_some, spelled.outline_eq]
  | other nonempty within nothing ends =>
    obtain ⟨inner, taken, behind⟩ := h.skip?_eq_some
    obtain ⟨clause, stop, cut, rfl, after⟩ := behind.clause within ends
    have some? : clause ≠ [] := fun none => nonempty (by rw [none]; rfl)
    obtain ⟨predicate, read, -, text⟩ := @condition_of_clause source _ _ _ cut some?
    refine ⟨some predicate, stop, ?_, ?_, after⟩
    · rw [whereClause, taken]
      exact bind_eq_ok_iff.2 ⟨_, read, rfl⟩
    · rw [text nothing]
      rfl

theorem Ends.of_skip? {kind : TokenKind} (h : Ends kinds tokens)
    (taken : skip? kind tokens = some rest) (inside : kind ≠ .eof) :
    ∃ later, kinds = kind :: later ∧ Ends later rest :=
  h.after (skip?_eq_some_iff.1 taken) (by simpa using Ne.symm inside)

theorem spellsWhere_of_whereClause {condition? : Option Predicate}
    (read : whereClause source tokens = .ok (condition?, rest)) (h : Ends kinds tokens) :
    ∃ clause later, kinds = clause ++ later ∧
      SpellsWhere clause later (condition?.map .outline) ∧ Ends later rest := by
  unfold whereClause at read
  split at read
  · rename_i absent
    cases read
    exact ⟨[], kinds, rfl, .absent (h.head?_ne (skip?_eq_none_iff.1 absent)), h⟩
  · rename_i inner taken
    obtain ⟨⟨predicate, stop⟩, read, same⟩ := bind_eq_ok_iff.1 read
    cases same
    obtain ⟨behind, rfl, ends⟩ := h.of_skip? taken (by simp)
    have isEnd : ∃ t ∈ inner, t.kind = .eof := by
      have member : TokenKind.eof ∈ inner.map (·.kind) := by simp [ends.front]
      exact List.mem_map.1 member
    obtain ⟨clause, stop, cut⟩ := exists_clause isEnd
    by_cases nonempty : clause = []
    · subst nonempty
      rw [condition_of_empty cut] at read
      cases read
    · obtain ⟨found, asRead, comparison, text⟩ := @condition_of_clause source _ _ _ cut nonempty
      rw [asRead] at read
      cases read
      have within : WithinClause (clause.map (·.kind)) := by
        intro kind member
        obtain ⟨t, inClause, rfl⟩ := List.mem_map.1 member
        exact cut.inside t inClause
      obtain ⟨later, rfl, behind⟩ := ends.after ⟨clause, cut.whole, rfl⟩ within.inside.eof_notMem
      refine ⟨.keyword .WHERE :: clause.map (·.kind), later, rfl, ?_, behind⟩
      by_cases spells : ∃ p, SpellsComparison (clause.map (·.kind)) p
      · obtain ⟨p, spelled⟩ := spells
        rw [comparison p spelled, Option.map_some, spelled.outline_eq]
        exact .comparison spelled (cut.ends_head? behind)
      · have nothing := not_exists.1 spells
        rw [text nothing]
        exact .other (by simpa using nonempty) within nothing (cut.ends_head? behind)

theorem exists_groupClause {groupBy? : Option ColumnRef}
    (spelled : SpellsGroup kinds later groupBy?) (h : Ends (kinds ++ later) tokens) :
    ∃ rest, groupClause tokens = .ok (groupBy?, rest) ∧ Ends later rest := by
  cases spelled with
  | absent noGroup =>
    refine ⟨tokens, ?_, h⟩
    rw [groupClause, h.skip?_eq_none (by simp) noGroup]
  | @column kinds _ column spelled noDot =>
    obtain ⟨inner, taken, h⟩ := h.skip?_eq_some
    obtain ⟨behind, byWord, h⟩ := h.skip?_eq_some
    obtain ⟨rest, front, after⟩ := h.cut
    have read : columnRef behind = .ok (column, rest) :=
      columnRef_eq_ok_iff.2 ⟨kinds, spelled, front, fun plain =>
        after.nextKind?_ne (by simp) (noDot plain)⟩
    refine ⟨rest, ?_, after⟩
    rw [groupClause, taken]
    exact bind_eq_ok_iff.2 ⟨behind, expect_eq_ok_iff.2 (skip?_eq_some_iff.1 byWord),
      bind_eq_ok_iff.2 ⟨_, read, rfl⟩⟩

theorem spellsGroup_of_groupClause {groupBy? : Option ColumnRef}
    (read : groupClause tokens = .ok (groupBy?, rest)) (h : Ends kinds tokens) :
    ∃ clause later, kinds = clause ++ later ∧ SpellsGroup clause later groupBy? ∧
      Ends later rest := by
  unfold groupClause at read
  split at read
  · rename_i absent
    cases read
    exact ⟨[], kinds, rfl, .absent (h.head?_ne (skip?_eq_none_iff.1 absent)), h⟩
  · rename_i inner taken
    obtain ⟨behind, byWord, read⟩ := bind_eq_ok_iff.1 read
    obtain ⟨⟨column, last⟩, read, same⟩ := bind_eq_ok_iff.1 read
    cases same
    obtain ⟨others, rfl, byNext⟩ := h.of_skip? taken (by simp)
    obtain ⟨others, rfl, columnNext⟩ :=
      byNext.of_skip? (skip?_eq_some_iff.2 (expect_eq_ok_iff.1 byWord)) (by simp)
    obtain ⟨columnKinds, spelled, front, noDot⟩ := columnRef_eq_ok_iff.1 read
    obtain ⟨later, rfl, after⟩ := columnNext.after front spelled.within.inside.eof_notMem
    exact ⟨.keyword .GROUP :: .keyword .BY :: columnKinds, later, rfl,
      .column spelled fun plain => after.head?_ne (noDot plain), after⟩

/-- What is left of the statement is cut off in front of its terminator. -/
theorem exists_trailing {last : List TokenKind} (h : Ends (kinds ++ last) tokens)
    (inside : Inside kinds) (terminator : Terminator last) :
    ∃ trailing? rest, trailing source tokens = (trailing?, rest) ∧
      trailing?.map (fun _ => "") = trailingOutline kinds ∧ Ends last rest := by
  obtain ⟨stop, ⟨front, rfl, rfl⟩, behind⟩ := h.cut
  have next := behind.nextKind?
  obtain ⟨taken, dropped⟩ : (front ++ stop).takeWhile insideStatement = front ∧
      (front ++ stop).dropWhile insideStatement = stop := by
    apply Text.takeWhile_front
    · intro t member
      simpa [insideStatement] using inside _ (List.mem_map_of_mem member)
    · intro t head
      simp only [Parser.nextKind?, head, Option.map_some] at next
      rcases terminator with rfl | rfl <;> simp_all [insideStatement]
  unfold trailing
  rw [taken, dropped]
  cases front <;> exact ⟨_, _, rfl, rfl, behind⟩

theorem exists_trailing_kinds (source : List Char) (h : Ends kinds tokens) :
    ∃ front later, kinds = front ++ later ∧ Inside front ∧
      (trailing source tokens).1.map (fun _ => "") = trailingOutline front ∧
      Ends later (trailing source tokens).2 := by
  have inside : Inside ((tokens.takeWhile insideStatement).map (·.kind)) := by
    intro kind member
    obtain ⟨t, taken, rfl⟩ := List.mem_map.1 member
    simpa [insideStatement] using (Text.longest_front tokens).1 t taken
  obtain ⟨later, rfl, behind⟩ :=
    h.after ⟨_, List.takeWhile_append_dropWhile.symm, rfl⟩ inside.eof_notMem
  refine ⟨_, later, rfl, inside, ?_⟩
  unfold trailing
  cases tokens.takeWhile insideStatement <;> exact ⟨rfl, behind⟩

/-! ## Queries -/

/-- The kinds of the tokens of a query with a table, without the end of the text, and what is read
of them but for its texts. -/
inductive Query : List TokenKind → Select → Prop where
  | of {list label condition group trailing last : List TokenKind} {kind : TokenKind}
      {items : List SelectItem} {table : String} {condition? : Option Predicate}
      {groupBy? : Option ColumnRef} (spelled : Separated SpellsItem list items)
      (read : nameOf? kind = some table)
      (aliased : SpellsAlias label (condition ++ (group ++ (trailing ++ last))))
      (restricted : SpellsWhere condition (group ++ (trailing ++ last)) condition?)
      (grouped : SpellsGroup group (trailing ++ last) groupBy?) (inside : Inside trailing)
      (ends : Terminator last) :
      Query (.keyword .SELECT :: (list ++ .keyword .FROM :: kind ::
          (label ++ (condition ++ (group ++ (trailing ++ last))))))
        ⟨items, some table, condition?, groupBy?, trailingOutline trailing⟩

/-- The readers that a query with a table goes through. -/
theorem select_eq_ok_iff {items : List SelectItem} {table : String} {condition? : Option Predicate}
    {groupBy? : Option ColumnRef} {trailing? : Option String} :
    select source tokens =
        .ok (.select ⟨items, some table, condition?, groupBy?, trailing?⟩, rest) ↔
      ∃ afterSelect afterItems afterFrom afterTable afterWhere afterGroup,
        skip? (.keyword .SELECT) tokens = some afterSelect ∧
        selectItems source afterSelect = .ok (items, afterItems) ∧
        skip? (.keyword .FROM) afterItems = some afterFrom ∧
        name afterFrom = .ok (table, afterTable) ∧
        whereClause source (skipAlias afterTable) = .ok (condition?, afterWhere) ∧
        groupClause afterWhere = .ok (groupBy?, afterGroup) ∧
        trailing source afterGroup = (trailing?, rest) := by
  simp only [select, bind_eq_ok_iff, expect_eq_ok_iff, skip?_eq_some_iff]
  constructor
  · rintro ⟨afterSelect, first, ⟨found, afterItems⟩, read, h⟩
    split at h
    · cases h
    · rename_i afterFrom from?
      simp only [bind_eq_ok_iff] at h
      obtain ⟨⟨named, afterTable⟩, word, ⟨found?, afterWhere⟩, clause, ⟨column?, afterGroup⟩,
        group, h⟩ := h
      cases h
      exact ⟨afterSelect, afterItems, afterFrom, afterTable, afterWhere, afterGroup, first, read,
        skip?_eq_some_iff.1 from?, word, clause, group, rfl⟩
  · rintro ⟨afterSelect, afterItems, afterFrom, afterTable, afterWhere, afterGroup, first, read,
      from?, word, clause, group, behind⟩
    refine ⟨afterSelect, first, _, read, ?_⟩
    simp only [skip?_eq_some_iff.2 from?, bind_eq_ok_iff]
    refine ⟨_, word, _, clause, _, group, ?_⟩
    rw [behind]
    rfl

theorem select_of_body {query : Select} (read : body source tokens = .ok (.select query, rest)) :
    select source tokens = .ok (.select query, rest) := by
  rcases body_eq_ok_iff.1 read with read | read | read | read | read
  · obtain ⟨_, _, _, -, other, -⟩ := createTable_eq_ok_iff.1 read
    cases other
  · obtain ⟨_, _, -, ⟨-, -, other⟩ | ⟨-, other⟩⟩ := dropTable_eq_ok_iff.1 read <;> cases other
  · obtain ⟨_, _, -, other, -⟩ := delete_eq_ok_iff.1 read
    cases other
  · obtain ⟨_, _, _, _, _, -, -, -, other, -⟩ := insert_eq_ok_iff.1 read
    cases other
  · exact read

theorem Query.table?_ne_none {outline : Select} (h : Query kinds outline) :
    outline.table? ≠ none := by
  cases h
  simp

/-- What the grammar of queries describes is read as it says. -/
theorem Query.exists_statement (source : List Char) {outline : Select} (h : Query kinds outline)
    (ends : Ends kinds tokens) :
    ∃ query, statement source tokens = .ok (.select query) ∧ query.outline = outline := by
  obtain @⟨list, label, condition, grouping, trailing, last, kind, outlines, table, restriction?,
    groupBy?, spelled, named, aliased, restricted, grouped, inside, terminator⟩ := h
  obtain ⟨afterSelect, first, ends⟩ := ends.skip?_eq_some
  obtain ⟨afterItems, front, ends⟩ := ends.cut
  have isFrom : nextKind? afterItems = some (.keyword .FROM) := by rw [ends.nextKind?]; rfl
  obtain ⟨items, read, items_eq⟩ := @exists_selectItems source _ _ _ _ spelled front isFrom
  obtain ⟨afterFrom, from?, ends⟩ := ends.skip?_eq_some
  obtain ⟨afterTable, word, ends⟩ := Ends.cut [kind] ends
  obtain ⟨condition?, afterWhere, clause, condition_eq, ends⟩ :=
    @exists_whereClause source _ _ _ _ restricted (ends_skipAlias aliased ends)
  obtain ⟨afterGroup, group, ends⟩ := exists_groupClause grouped ends
  obtain ⟨trailing?, rest, behind, trailing_eq, ends⟩ :=
    @exists_trailing source _ _ _ ends inside terminator
  have query := select_eq_ok_iff.2 ⟨afterSelect, afterItems, afterFrom, afterTable, afterWhere,
    afterGroup, first, read, from?, name_eq_ok_iff.2 ⟨_, named, word⟩, clause, group, behind⟩
  refine ⟨⟨items, some table, condition?, groupBy?, trailing?⟩, ?_, ?_⟩
  · exact statement_eq_ok.2 ⟨rest, body_eq_ok_iff.2 (.inr (.inr (.inr (.inr query)))), _, [],
      terminator, rest, by simp, ends.front⟩
  · rw [Select.outline, items_eq, condition_eq, trailing_eq]

/-- Only what the grammar of queries describes is read as a query with a table. -/
theorem query_of_statement {query : Select} (ends : Ends kinds tokens)
    (read : statement source tokens = .ok (.select query)) (hasTable : query.table? ≠ none) :
    Query kinds query.outline := by
  obtain ⟨rest, read, last, after, terminator, ended⟩ := statement_eq_ok.1 read
  have selected := select_of_body read
  obtain ⟨items, table?, condition?, groupBy?, trailing?⟩ := query
  obtain ⟨table, rfl⟩ := Option.ne_none_iff_exists'.1 hasTable
  obtain ⟨afterSelect, afterItems, afterFrom, afterTable, afterWhere, afterGroup, first, items,
    from?, word, clause, group, behind⟩ := select_eq_ok_iff.1 selected
  obtain ⟨kinds, rfl, atItems⟩ := ends.of_skip? first (by simp)
  have isFrom := nextKind?_of_front (skip?_eq_some_iff.1 from?)
  obtain ⟨list, spelled, front⟩ := outline_of_selectItems items isFrom
  obtain ⟨kinds, rfl, atFrom⟩ := atItems.after front (inside_of_items spelled).eof_notMem
  obtain ⟨kinds, rfl, atName⟩ := atFrom.of_skip? from? (by simp)
  obtain ⟨kind, named, front⟩ := name_eq_ok_iff.1 word
  have inName : Inside [kind] := by simp [ne_of_nameOf? named]
  obtain ⟨kinds, rfl, atAlias⟩ := atName.after front inName.eof_notMem
  obtain ⟨label, kinds, rfl, aliased⟩ := exists_alias kinds
  obtain ⟨condition, kinds, rfl, restricted, atGroup⟩ :=
    spellsWhere_of_whereClause clause (ends_skipAlias aliased atAlias)
  obtain ⟨grouping, kinds, rfl, grouped, atTrailing⟩ := spellsGroup_of_groupClause group atGroup
  obtain ⟨trailing, kinds, rfl, inside, trailing_eq, atEnd⟩ :=
    exists_trailing_kinds source atTrailing
  rw [behind] at trailing_eq atEnd
  obtain rfl := atEnd.eq_terminator terminator ended
  rw [Select.outline, trailing_eq]
  exact .of spelled named aliased restricted grouped inside terminator

end Parser

open SqlGrader.Lexer SqlGrader.Parser

/-- A text is read as a query with a table exactly when its tokens are those of the grammar. -/
theorem exists_parse_iff_query {text : String} {kinds : List TokenKind} {outline : Select}
    (lexes : LexesTo text.toList kinds) :
    (∃ query, Statement.parse text = .ok (.select query) ∧ query.table? ≠ none ∧
      query.outline = outline) ↔ Query kinds outline := by
  obtain ⟨spans, whole, lexed, rfl⟩ := lexes
  have ends := lexed.ends 0
  rw [Statement.parse, tokenize_eq_ok_iff.2 ⟨spans, whole, lexed, rfl⟩]
  constructor
  · rintro ⟨query, read, hasTable, same⟩
    exact same ▸ query_of_statement ends read hasTable
  · intro h
    obtain ⟨query, read, rfl⟩ := h.exists_statement text.toList ends
    exact ⟨query, read, h.table?_ne_none, rfl⟩

end SqlGrader
