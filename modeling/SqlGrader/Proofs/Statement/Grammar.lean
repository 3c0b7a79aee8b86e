import SqlGrader.Proofs.Statement.Reading
import SqlGrader.Proofs.Token.Lexing

/-!
# The grammar of commands

A command is a statement that changes tables: every statement but a query. `Command` gives its
grammar on the kinds of the tokens. Main statements: a command is parsed exactly from the token
sequences of the grammar (`statement_eq_ok_iff_command`), so that positions and the source text
have no part in it, and hence from the texts whose spans have such kinds (`parse_eq_ok_iff`).
-/

set_option autoImplicit false

namespace SqlGrader.Parser

/-- What may stand between a statement and the end of the text. -/
def Terminator (kinds : List TokenKind) : Prop :=
  kinds = [] ∨ kinds = [.semicolon]

/-- The list of columns that may stand behind the table of an `INSERT`. -/
inductive ColumnList : List TokenKind → Prop where
  | absent : ColumnList []
  | names {kinds : List TokenKind} (read : SpellsNames kinds) :
      ColumnList (.leftParen :: (kinds ++ [.rightParen]))

/-- The kinds of the tokens of a command, without the end of the text. Behind the table of a
`CREATE` stands anything at all. -/
inductive Command : List TokenKind → Statement → Prop where
  | createTable {kind : TokenKind} {named : String} {anything : List TokenKind}
      (read : nameOf? kind = some named)
      (plain : kind = .keyword .IF → anything.head? ≠ some (.keyword .NOT)) :
      Command (.keyword .CREATE :: .keyword .TABLE :: kind :: anything) (.createTable named)
  | createTableIfNotExists {kind : TokenKind} {named : String} {anything : List TokenKind}
      (read : nameOf? kind = some named) :
      Command (.keyword .CREATE :: .keyword .TABLE :: .keyword .IF :: .keyword .NOT ::
        .keyword .EXISTS :: kind :: anything) (.createTable named)
  | dropTable {kind : TokenKind} {named : String} {last : List TokenKind}
      (read : nameOf? kind = some named) (ends : Terminator last) :
      Command (.keyword .DROP :: .keyword .TABLE :: kind :: last) (.dropTable named false)
  | dropTableIfExists {kind : TokenKind} {named : String} {last : List TokenKind}
      (read : nameOf? kind = some named) (ends : Terminator last) :
      Command
        (.keyword .DROP :: .keyword .TABLE :: .keyword .IF :: .keyword .EXISTS :: kind :: last)
        (.dropTable named true)
  | delete {kind : TokenKind} {named : String} {last : List TokenKind}
      (read : nameOf? kind = some named) (ends : Terminator last) :
      Command (.keyword .DELETE :: .keyword .FROM :: kind :: last) (.delete named)
  | insert {kind : TokenKind} {named : String} {columns tuples last : List TokenKind}
      {rows : List (List Literal)} (read : nameOf? kind = some named) (list : ColumnList columns)
      (values : SpellsTuples tuples rows) (ends : Terminator last) :
      Command (.keyword .INSERT :: .keyword .INTO :: kind ::
        (columns ++ .keyword .VALUES :: (tuples ++ last))) (.insert named rows)

theorem ColumnList.inside {columns : List TokenKind} (h : ColumnList columns) :
    Inside columns := by
  cases h with
  | absent => simp
  | names read => simp [read.inside]

/-- Tokens of the given kinds with the end of the text, and only there, behind them. -/
structure Ends (kinds : List TokenKind) (tokens : List Token) : Prop where
  front : tokens.map (·.kind) = kinds ++ [.eof]
  inside : .eof ∉ kinds

theorem statement_eq_ok {source : List Char} {tokens : List Token} {parsed : Statement} :
    statement source tokens = .ok parsed ↔
      ∃ rest, body source tokens = .ok (parsed, rest) ∧
        ∃ last after, Terminator last ∧ Front (last ++ [.eof]) rest after := by
  simp only [statement, bind_eq_ok_iff, expect_eq_ok_iff]
  constructor
  · rintro ⟨⟨found, rest⟩, read, after, ended, h⟩
    cases h
    refine ⟨rest, read, ?_⟩
    cases skipped : skip? .semicolon rest with
    | none => exact ⟨[], after, .inl rfl, by simpa [skipped] using ended⟩
    | some next =>
      refine ⟨[.semicolon], after, .inr rfl, ?_⟩
      rw [skipped, Option.getD_some] at ended
      exact front_append.2 ⟨next, skip?_eq_some_iff.1 skipped, ended⟩
  · rintro ⟨rest, read, last, after, rfl | rfl, front⟩
    · refine ⟨_, read, after, ?_, rfl⟩
      obtain ⟨t, tail, rfl, isEnd, -⟩ := front_cons.1 front
      have kept : skip? .semicolon (t :: tail) = none := by
        rw [skip?_eq_none_iff]
        simp [nextKind?, isEnd]
      rw [kept]
      exact front
    · refine ⟨_, read, after, ?_, rfl⟩
      obtain ⟨next, semicolon, ended⟩ := front.cut [.semicolon]
      rw [skip?_eq_some_iff.2 semicolon]
      exact ended

/-- Kinds that are taken from the front leave the kinds behind them. -/
theorem Ends.after {kinds front : List TokenKind} {tokens rest : List Token} (h : Ends kinds tokens)
    (taken : Front front tokens rest) (inside : .eof ∉ front) :
    ∃ later, kinds = front ++ later ∧ Ends later rest := by
  obtain ⟨ts, rfl, rfl⟩ := taken
  obtain ⟨whole, noEnd⟩ := h
  rw [List.map_append] at whole
  rcases List.append_eq_append_iff.1 whole with ⟨later, rfl, restKinds⟩ | ⟨extra, frontKinds, ended⟩
  · exact ⟨later, rfl, restKinds, fun member => noEnd (List.mem_append_right _ member)⟩
  · cases extra with
    | nil => exact ⟨[], by simpa using frontKinds.symm, by simpa using ended.symm, by simp⟩
    | cons kind extra =>
      obtain ⟨rfl, -⟩ := List.cons.inj ended
      exact absurd (frontKinds ▸ List.mem_append_right _ (List.mem_cons_self)) inside

theorem Ends.front_eof {kinds : List TokenKind} {tokens : List Token} (h : Ends kinds tokens) :
    ∃ last, last.kind = .eof ∧ Front kinds tokens [last] := by
  obtain ⟨front, back, rfl, rfl, ends⟩ := List.map_eq_append_iff.1 h.front
  obtain ⟨last, tail, rfl, isEnd, nothing⟩ := List.map_eq_cons_iff.1 ends
  obtain rfl := List.map_eq_nil_iff.1 nothing
  exact ⟨last, isEnd, front, rfl, rfl⟩

theorem Terminator.eof_notMem {last : List TokenKind} (h : Terminator last) : .eof ∉ last := by
  rcases h with rfl | rfl <;> simp

/-- In front of the end of the text nothing but a terminator is left. -/
theorem Ends.eq_terminator {kinds last : List TokenKind} {tokens after : List Token}
    (h : Ends kinds tokens) (terminator : Terminator last)
    (front : Front (last ++ [.eof]) tokens after) : kinds = last := by
  obtain ⟨middle, taken, ended⟩ := front_append.1 front
  obtain ⟨later, rfl, whole, noEnd⟩ := h.after taken terminator.eof_notMem
  obtain ⟨t, tail, rfl, isEnd, -⟩ := front_cons.1 ended
  cases later with
  | nil => simp
  | cons kind later =>
    obtain ⟨same, -⟩ : t.kind = kind ∧ _ := by simpa using whole
    exact absurd (by simp [← same, isEnd]) noEnd

/-! ## The readers of commands -/

theorem skip_two_eq_some_iff {first second : TokenKind} {tokens rest : List Token} :
    (skip? first tokens >>= skip? second) = some rest ↔ Front [first, second] tokens rest := by
  simp only [Option.bind_eq_bind, Option.bind_eq_some_iff, skip?_eq_some_iff]
  exact (@front_append [first] [second] tokens rest).symm

theorem skip_two_eq_none {first second kind : TokenKind} {tokens rest : List Token}
    (front : Front [kind] tokens rest) (different : kind = first → nextKind? rest ≠ some second) :
    (skip? first tokens >>= skip? second) = none := by
  apply Option.eq_none_iff_forall_ne_some.2
  intro after both
  obtain ⟨t, tail, rfl, rfl, same⟩ := front_cons.1 front
  obtain rfl := front_nil.1 same
  rw [skip_two_eq_some_iff, front_cons_cons] at both
  obtain ⟨u, later, rfl, isSecond, -⟩ := front_cons.1 both.2
  exact different both.1 (by simp [nextKind?, isSecond])

theorem createTable_eq_ok_iff {tokens rest : List Token} {parsed : Statement} :
    createTable tokens = .ok (parsed, rest) ↔
      ∃ kind named after, nameOf? kind = some named ∧ parsed = .createTable named ∧
        rest = after.dropWhile (·.kind ≠ .eof) ∧
        ((Front [.keyword .CREATE, .keyword .TABLE, kind] tokens after ∧
            (kind = .keyword .IF → nextKind? after ≠ some (.keyword .NOT))) ∨
          Front [.keyword .CREATE, .keyword .TABLE, .keyword .IF, .keyword .NOT, .keyword .EXISTS,
            kind] tokens after) := by
  simp only [createTable, bind_eq_ok_iff, expect_eq_ok_iff]
  constructor
  · rintro ⟨afterCreate, create, afterTable, table, h⟩
    split at h
    · rename_i inner ifNot
      simp only [bind_eq_ok_iff, expect_eq_ok_iff] at h
      obtain ⟨afterExists, exists?, ⟨named, after⟩, read, h⟩ := h
      cases h
      obtain ⟨kind, read, word⟩ := name_eq_ok_iff.1 read
      rw [skip_two_eq_some_iff] at ifNot
      exact ⟨kind, named, after, read, rfl, rfl,
        .inr (create.trans (table.trans (ifNot.trans (exists?.trans word))))⟩
    · rename_i plain
      simp only [bind_eq_ok_iff] at h
      obtain ⟨_, same, ⟨named, after⟩, read, h⟩ := h
      cases same
      cases h
      obtain ⟨kind, read, word⟩ := name_eq_ok_iff.1 read
      refine ⟨kind, named, after, read, rfl, rfl, .inl ⟨create.trans (table.trans word), ?_⟩⟩
      rintro rfl next
      obtain ⟨t, head, isNot⟩ := Option.map_eq_some_iff.1 next
      obtain ⟨tail, rfl⟩ := List.head?_eq_some_iff.1 head
      have both : Front [.keyword .IF, .keyword .NOT] afterTable tail :=
        word.trans (show Front [.keyword .NOT] _ _ by simp [isNot])
      rw [skip_two_eq_some_iff.2 both] at plain
      cases plain
  · rintro ⟨kind, named, after, read, rfl, rfl, ⟨front, plain⟩ | front⟩
    · obtain ⟨afterCreate, create, front⟩ := front.cut [.keyword .CREATE]
      obtain ⟨afterTable, table, word⟩ := front.cut [.keyword .TABLE]
      refine ⟨afterCreate, create, afterTable, table, ?_⟩
      rw [skip_two_eq_none word plain]
      simp only [bind_eq_ok_iff]
      exact ⟨afterTable, rfl, _, name_eq_ok_iff.2 ⟨kind, read, word⟩, rfl⟩
    · obtain ⟨afterCreate, create, front⟩ := front.cut [.keyword .CREATE]
      obtain ⟨afterTable, table, front⟩ := front.cut [.keyword .TABLE]
      obtain ⟨inner, ifNot, front⟩ := front.cut [.keyword .IF, .keyword .NOT]
      obtain ⟨afterExists, exists?, word⟩ := front.cut [.keyword .EXISTS]
      refine ⟨afterCreate, create, afterTable, table, ?_⟩
      rw [skip_two_eq_some_iff.2 ifNot]
      simp only [bind_eq_ok_iff, expect_eq_ok_iff]
      exact ⟨afterExists, exists?, _, name_eq_ok_iff.2 ⟨kind, read, word⟩, rfl⟩

theorem dropTable_eq_ok_iff {tokens rest : List Token} {parsed : Statement} :
    dropTable tokens = .ok (parsed, rest) ↔
      ∃ kind named, nameOf? kind = some named ∧
        ((Front [.keyword .DROP, .keyword .TABLE, kind] tokens rest ∧
            (kind = .keyword .IF → nextKind? rest ≠ some (.keyword .EXISTS)) ∧
            parsed = .dropTable named false) ∨
          (Front [.keyword .DROP, .keyword .TABLE, .keyword .IF, .keyword .EXISTS, kind] tokens
              rest ∧ parsed = .dropTable named true)) := by
  simp only [dropTable, bind_eq_ok_iff, expect_eq_ok_iff]
  constructor
  · rintro ⟨afterDrop, drop, afterTable, table, h⟩
    split at h
    · rename_i inner ifExists
      simp only [bind_eq_ok_iff] at h
      obtain ⟨⟨named, after⟩, read, h⟩ := h
      cases h
      obtain ⟨kind, read, word⟩ := name_eq_ok_iff.1 read
      rw [skip_two_eq_some_iff] at ifExists
      exact ⟨kind, named, read, .inr ⟨drop.trans (table.trans (ifExists.trans word)), rfl⟩⟩
    · rename_i plain
      simp only [bind_eq_ok_iff] at h
      obtain ⟨⟨named, after⟩, read, h⟩ := h
      cases h
      obtain ⟨kind, read, word⟩ := name_eq_ok_iff.1 read
      refine ⟨kind, named, read, .inl ⟨drop.trans (table.trans word), ?_, rfl⟩⟩
      rintro rfl next
      obtain ⟨t, head, isExists⟩ := Option.map_eq_some_iff.1 next
      obtain ⟨tail, rfl⟩ := List.head?_eq_some_iff.1 head
      have both : Front [.keyword .IF, .keyword .EXISTS] afterTable tail :=
        word.trans (show Front [.keyword .EXISTS] _ _ by simp [isExists])
      rw [skip_two_eq_some_iff.2 both] at plain
      cases plain
  · rintro ⟨kind, named, read, ⟨front, plain, rfl⟩ | ⟨front, rfl⟩⟩
    · obtain ⟨afterDrop, drop, front⟩ := front.cut [.keyword .DROP]
      obtain ⟨afterTable, table, word⟩ := front.cut [.keyword .TABLE]
      refine ⟨afterDrop, drop, afterTable, table, ?_⟩
      rw [skip_two_eq_none word plain]
      simp only [bind_eq_ok_iff]
      exact ⟨_, name_eq_ok_iff.2 ⟨kind, read, word⟩, rfl⟩
    · obtain ⟨afterDrop, drop, front⟩ := front.cut [.keyword .DROP]
      obtain ⟨afterTable, table, front⟩ := front.cut [.keyword .TABLE]
      obtain ⟨inner, ifExists, word⟩ :=
        front.cut [.keyword .IF, .keyword .EXISTS]
      refine ⟨afterDrop, drop, afterTable, table, ?_⟩
      rw [skip_two_eq_some_iff.2 ifExists]
      simp only [bind_eq_ok_iff]
      exact ⟨_, name_eq_ok_iff.2 ⟨kind, read, word⟩, rfl⟩

theorem delete_eq_ok_iff {tokens rest : List Token} {parsed : Statement} :
    delete tokens = .ok (parsed, rest) ↔
      ∃ kind named, nameOf? kind = some named ∧ parsed = .delete named ∧
        Front [.keyword .DELETE, .keyword .FROM, kind] tokens rest := by
  simp only [delete, bind_eq_ok_iff, expect_eq_ok_iff]
  constructor
  · rintro ⟨afterDelete, delete, afterFrom, from?, ⟨named, after⟩, read, h⟩
    cases h
    obtain ⟨kind, read, word⟩ := name_eq_ok_iff.1 read
    exact ⟨kind, named, read, rfl, delete.trans (from?.trans word)⟩
  · rintro ⟨kind, named, read, rfl, front⟩
    obtain ⟨afterDelete, delete, front⟩ := front.cut [.keyword .DELETE]
    obtain ⟨afterFrom, from?, word⟩ := front.cut [.keyword .FROM]
    exact ⟨afterDelete, delete, afterFrom, from?, _, name_eq_ok_iff.2 ⟨kind, read, word⟩, rfl⟩

def skipColumns (tokens : List Token) : Except ParseError (List Token) :=
  match skip? .leftParen tokens with
  | some rest => columnNames rest >>= expect .rightParen
  | none => pure tokens

theorem skipColumns_eq_ok_iff {tokens rest : List Token}
    (stop : nextKind? rest ≠ some .leftParen) :
    skipColumns tokens = .ok rest ↔ ∃ columns, ColumnList columns ∧ Front columns tokens rest := by
  unfold skipColumns
  constructor
  · intro h
    split at h
    · rename_i inner opened
      simp only [bind_eq_ok_iff, expect_eq_ok_iff] at h
      obtain ⟨after, read, closed⟩ := h
      obtain ⟨kinds, spelled, front, -⟩ := columnNames_eq_ok_iff.1 read
      exact ⟨_, .names spelled, (skip?_eq_some_iff.1 opened).trans (front.trans closed)⟩
    · cases h
      exact ⟨[], .absent, front_nil.2 rfl⟩
  · rintro ⟨columns, list, front⟩
    cases list with
    | absent =>
      obtain rfl := front_nil.1 front
      rw [skip?_eq_none_iff.2 stop]
      rfl
    | @names kinds read =>
      obtain ⟨inner, opened, front⟩ := front.cut [.leftParen]
      obtain ⟨after, front, closed⟩ := front_append.1 front
      rw [skip?_eq_some_iff.2 opened]
      simp only [bind_eq_ok_iff, expect_eq_ok_iff]
      obtain ⟨t, tail, rfl, isClose, -⟩ := front_cons.1 closed
      exact ⟨_, columnNames_eq_ok_iff.2 ⟨kinds, read, front, by simp [nextKind?, isClose]⟩, closed⟩

theorem insert_eq (source : List Char) (tokens : List Token) :
    insert source tokens = do
      let rest ← expect (.keyword .INSERT) tokens
      let rest ← expect (.keyword .INTO) rest
      let (table, rest) ← name rest
      let rest ← skipColumns rest
      let rest ← expect (.keyword .VALUES) rest
      let (rows, rest) ← tuples source rest
      return (.insert table rows, rest) := by
  unfold insert
  refine congrArg _ (funext fun _ => congrArg _ (funext fun _ =>
    congrArg _ (funext fun read => ?_)))
  obtain ⟨table, rest⟩ := read
  dsimp only [skipColumns]
  cases skip? .leftParen rest <;> rfl

theorem insert_eq_ok_iff {source : List Char} {tokens rest : List Token} {parsed : Statement} :
    insert source tokens = .ok (parsed, rest) ↔
      ∃ kind named columns tuples rows, nameOf? kind = some named ∧ ColumnList columns ∧
        SpellsTuples tuples rows ∧ parsed = .insert named rows ∧
        nextKind? rest ≠ some .comma ∧
        Front (.keyword .INSERT :: .keyword .INTO :: kind ::
          (columns ++ .keyword .VALUES :: tuples)) tokens rest := by
  simp only [insert_eq, bind_eq_ok_iff, expect_eq_ok_iff]
  constructor
  · rintro ⟨afterInsert, insert, afterInto, into, ⟨named, afterName⟩, read, afterList, list, last,
      values, ⟨rows, after⟩, readRows, h⟩
    cases h
    obtain ⟨kind, read, word⟩ := name_eq_ok_iff.1 read
    have stop : nextKind? afterList ≠ some .leftParen := by
      obtain ⟨t, tail, rfl, isValues, -⟩ := front_cons.1 values
      simp [nextKind?, isValues]
    obtain ⟨columns, list, columnsFront⟩ := (skipColumns_eq_ok_iff stop).1 list
    obtain ⟨tuples, spelled, tuplesFront, end?⟩ := tuples_eq_ok_iff.1 readRows
    exact ⟨kind, named, columns, tuples, rows, read, list, spelled, rfl, end?,
      insert.trans (into.trans (word.trans (columnsFront.trans (values.trans tuplesFront))))⟩
  · rintro ⟨kind, named, columns, tuples, rows, read, list, spelled, rfl, end?, front⟩
    obtain ⟨afterInsert, insert, front⟩ := front.cut [.keyword .INSERT]
    obtain ⟨afterInto, into, front⟩ := front.cut [.keyword .INTO]
    obtain ⟨afterName, word, front⟩ := front.cut [kind]
    obtain ⟨afterList, columnsFront, front⟩ := front_append.1 front
    obtain ⟨last, values, tuplesFront⟩ := front.cut [.keyword .VALUES]
    have stop : nextKind? afterList ≠ some .leftParen := by
      obtain ⟨t, tail, rfl, isValues, -⟩ := front_cons.1 values
      simp [nextKind?, isValues]
    exact ⟨afterInsert, insert, afterInto, into, _, name_eq_ok_iff.2 ⟨kind, read, word⟩, afterList,
      (skipColumns_eq_ok_iff stop).2 ⟨columns, list, columnsFront⟩, last, values, _,
      tuples_eq_ok_iff.2 ⟨tuples, spelled, tuplesFront, end?⟩, rfl⟩

theorem first_of_select {source : List Char} {tokens : List Token} {read : Reading Statement}
    (h : select source tokens = .ok read) :
    ∃ rest, Front [.keyword .SELECT] tokens rest := by
  simp only [select, bind_eq_ok_iff, expect_eq_ok_iff] at h
  exact h.imp fun _ taken => taken.1

theorem select_of_select {source : List Char} {tokens rest : List Token} {parsed : Statement}
    (h : select source tokens = .ok (parsed, rest)) : ∃ query, parsed = .select query := by
  simp only [select, bind_eq_ok_iff] at h
  obtain ⟨_, -, ⟨items, afterItems⟩, -, h⟩ := h
  split at h
  · cases h
    exact ⟨_, rfl⟩
  · simp only [bind_eq_ok_iff] at h
    obtain ⟨⟨table, afterTable⟩, -, ⟨condition, afterCondition⟩, -, ⟨group, afterGroup⟩, -, h⟩ := h
    cases h
    exact ⟨_, rfl⟩

/-- The first token tells which statement is read. -/
theorem body_eq_ok_iff {source : List Char} {tokens : List Token} {read : Reading Statement} :
    body source tokens = .ok read ↔
      createTable tokens = .ok read ∨ dropTable tokens = .ok read ∨ delete tokens = .ok read ∨
        insert source tokens = .ok read ∨ select source tokens = .ok read := by
  have heads : ∀ {kind : TokenKind} {kinds : List TokenKind} {rest : List Token},
      Front (kind :: kinds) tokens rest → ∃ t tail, tokens = t :: tail ∧ t.kind = kind := by
    intro kind kinds rest front
    obtain ⟨t, tail, rfl, same, -⟩ := front_cons.1 front
    exact ⟨t, tail, rfl, same⟩
  constructor
  · intro h
    unfold body at h
    split at h
    · cases h
    · split at h
      · exact .inl h
      · exact .inr (.inl h)
      · exact .inr (.inr (.inl h))
      · exact .inr (.inr (.inr (.inl h)))
      · exact .inr (.inr (.inr (.inr h)))
      · cases h
      · cases h
  · obtain ⟨parsed, rest⟩ := read
    rintro (h | h | h | h | h)
    · obtain ⟨_, _, _, -, -, -, ⟨front, -⟩ | front⟩ := createTable_eq_ok_iff.1 h <;>
      · obtain ⟨t, tail, rfl, same⟩ := heads front
        simpa only [body, same] using h
    · obtain ⟨_, _, -, ⟨front, -, -⟩ | ⟨front, -⟩⟩ := dropTable_eq_ok_iff.1 h <;>
      · obtain ⟨t, tail, rfl, same⟩ := heads front
        simpa only [body, same] using h
    · obtain ⟨_, _, -, -, front⟩ := delete_eq_ok_iff.1 h
      obtain ⟨t, tail, rfl, same⟩ := heads front
      simpa only [body, same] using h
    · obtain ⟨_, _, _, _, _, -, -, -, -, -, front⟩ := insert_eq_ok_iff.1 h
      obtain ⟨t, tail, rfl, same⟩ := heads front
      simpa only [body, same] using h
    · obtain ⟨_, front⟩ := first_of_select h
      obtain ⟨t, tail, rfl, same⟩ := heads front
      simpa only [body, same] using h

/-! ## Commands -/

theorem Ends.nextKind? {kinds : List TokenKind} {tokens : List Token} (h : Ends kinds tokens) :
    nextKind? tokens = kinds.head?.or (some .eof) := by
  have whole := congrArg List.head? h.front
  rw [List.head?_map, List.head?_append] at whole
  exact whole

theorem command_of_body {source : List Char} {kinds last : List TokenKind}
    {tokens rest after : List Token} {parsed : Statement} (h : Ends kinds tokens)
    (read : body source tokens = .ok (parsed, rest)) (terminator : Terminator last)
    (ended : Front (last ++ [.eof]) rest after) (notQuery : ∀ query, parsed ≠ .select query) :
    Command kinds parsed := by
  rcases body_eq_ok_iff.1 read with read | read | read | read | read
  · obtain ⟨kind, named, later, word, rfl, -, ⟨front, plain⟩ | front⟩ :=
      createTable_eq_ok_iff.1 read
    · obtain ⟨anything, rfl, ends⟩ :=
        h.after front (Inside.eof_notMem (by simp [ne_of_nameOf? word]))
      refine .createTable word fun isIf (isNot : anything.head? = _) => plain isIf ?_
      rw [ends.nextKind?, isNot, Option.some_or]
    · obtain ⟨anything, rfl, -⟩ := h.after front (Inside.eof_notMem (by simp [ne_of_nameOf? word]))
      exact .createTableIfNotExists word
  · obtain ⟨kind, named, word, ⟨front, -, rfl⟩ | ⟨front, rfl⟩⟩ := dropTable_eq_ok_iff.1 read
    · obtain ⟨later, rfl, ends⟩ := h.after front (Inside.eof_notMem (by simp [ne_of_nameOf? word]))
      obtain rfl := ends.eq_terminator terminator ended
      exact .dropTable word terminator
    · obtain ⟨later, rfl, ends⟩ := h.after front (Inside.eof_notMem (by simp [ne_of_nameOf? word]))
      obtain rfl := ends.eq_terminator terminator ended
      exact .dropTableIfExists word terminator
  · obtain ⟨kind, named, word, rfl, front⟩ := delete_eq_ok_iff.1 read
    obtain ⟨later, rfl, ends⟩ := h.after front (Inside.eof_notMem (by simp [ne_of_nameOf? word]))
    obtain rfl := ends.eq_terminator terminator ended
    exact .delete word terminator
  · obtain ⟨kind, named, columns, tuples, rows, word, list, spelled, rfl, -, front⟩ :=
      insert_eq_ok_iff.1 read
    obtain ⟨later, rfl, ends⟩ := h.after front (Inside.eof_notMem (by
      simp [ne_of_nameOf? word, list.inside, spelled.inside]))
    obtain rfl := ends.eq_terminator terminator ended
    have whole : (.keyword .INSERT :: .keyword .INTO :: kind ::
        (columns ++ .keyword .VALUES :: tuples)) ++ later =
        .keyword .INSERT :: .keyword .INTO :: kind ::
          (columns ++ .keyword .VALUES :: (tuples ++ later)) := by simp
    rw [whole]
    exact .insert word list spelled terminator
  · obtain ⟨query, rfl⟩ := select_of_select read
    exact absurd rfl (notQuery query)

theorem dropWhile_to_eof {kinds : List TokenKind} {tokens : List Token} {last : Token}
    (front : Front kinds tokens [last]) (inside : .eof ∉ kinds) (isEnd : last.kind = .eof) :
    tokens.dropWhile (·.kind ≠ .eof) = [last] := by
  obtain ⟨ts, rfl, rfl⟩ := front
  refine (Text.takeWhile_front _ (fun t member => ?_) fun t head => ?_).2
  · have different : t.kind ≠ .eof := by
      intro same
      exact inside (same ▸ List.mem_map_of_mem member)
    simpa using different
  · cases head
    simp [isEnd]

/-- A text that is a command is read as that command. -/
theorem statement_of_command {source : List Char} {kinds : List TokenKind} {tokens : List Token}
    {parsed : Statement} (h : Ends kinds tokens) (command : Command kinds parsed) :
    statement source tokens = .ok parsed := by
  obtain ⟨final, isEnd, front⟩ := h.front_eof
  have ends : Front [.eof] [final] [] := by simp [isEnd]
  have close : ∀ {last : List TokenKind} {rest : List Token}, Terminator last →
      Front last rest [final] → ∃ last after, Terminator last ∧ Front (last ++ [.eof]) rest after :=
    fun terminator tail => ⟨_, _, terminator, tail.trans ends⟩
  rw [statement_eq_ok]
  simp only [body_eq_ok_iff]
  have inside := h.inside
  cases command with
  | @createTable kind named anything word plain =>
    obtain ⟨after, taken, tail⟩ :=
      front.cut [.keyword .CREATE, .keyword .TABLE, kind]
    obtain ⟨later, same, endsAfter⟩ :=
      h.after taken (Inside.eof_notMem (by simp [ne_of_nameOf? word]))
    obtain rfl : anything = later := by simpa using same
    have dropped := dropWhile_to_eof tail endsAfter.inside isEnd
    refine ⟨[final], .inl (createTable_eq_ok_iff.2 ⟨kind, named, after, word, rfl, dropped.symm,
      .inl ⟨taken, fun isIf isNot => plain isIf ?_⟩⟩), close (.inl rfl) (front_nil.2 rfl)⟩
    rw [endsAfter.nextKind?] at isNot
    cases anything with
    | nil => simp at isNot
    | cons first anything => simpa using isNot
  | @createTableIfNotExists kind named anything word =>
    obtain ⟨after, taken, tail⟩ := front.cut [.keyword .CREATE, .keyword .TABLE,
      .keyword .IF, .keyword .NOT, .keyword .EXISTS, kind]
    obtain ⟨later, same, endsAfter⟩ :=
      h.after taken (Inside.eof_notMem (by simp [ne_of_nameOf? word]))
    obtain rfl : anything = later := by simpa using same
    have dropped := dropWhile_to_eof tail endsAfter.inside isEnd
    exact ⟨[final], .inl (createTable_eq_ok_iff.2 ⟨kind, named, after, word, rfl, dropped.symm,
      .inr taken⟩), close (.inl rfl) (front_nil.2 rfl)⟩
  | @dropTable kind named last word terminator =>
    obtain ⟨rest, taken, tail⟩ :=
      front.cut [.keyword .DROP, .keyword .TABLE, kind]
    obtain ⟨later, same, endsAfter⟩ :=
      h.after taken (Inside.eof_notMem (by simp [ne_of_nameOf? word]))
    obtain rfl : last = later := by simpa using same
    refine ⟨rest, .inr (.inl (dropTable_eq_ok_iff.2
      ⟨kind, named, word, .inl ⟨taken, fun _ => ?_, rfl⟩⟩)), close terminator tail⟩
    rw [endsAfter.nextKind?]
    rcases terminator with rfl | rfl <;> simp
  | @dropTableIfExists kind named last word terminator =>
    obtain ⟨rest, taken, tail⟩ :=
      front.cut [.keyword .DROP, .keyword .TABLE, .keyword .IF, .keyword .EXISTS, kind]
    exact ⟨rest, .inr (.inl (dropTable_eq_ok_iff.2 ⟨kind, named, word, .inr ⟨taken, rfl⟩⟩)),
      close terminator tail⟩
  | @delete kind named last word terminator =>
    obtain ⟨rest, taken, tail⟩ :=
      front.cut [.keyword .DELETE, .keyword .FROM, kind]
    exact ⟨rest, .inr (.inr (.inl (delete_eq_ok_iff.2 ⟨kind, named, word, rfl, taken⟩))),
      close terminator tail⟩
  | @insert kind named columns tuples last rows word list values terminator =>
    have whole : .keyword .INSERT :: .keyword .INTO :: kind ::
          (columns ++ .keyword .VALUES :: (tuples ++ last)) =
        (.keyword .INSERT :: .keyword .INTO :: kind ::
          (columns ++ .keyword .VALUES :: tuples)) ++ last := by simp
    rw [whole] at front h
    obtain ⟨rest, taken, tail⟩ := front_append.1 front
    obtain ⟨later, same, endsAfter⟩ := h.after taken (Inside.eof_notMem (by
      simp [ne_of_nameOf? word, list.inside, values.inside]))
    obtain rfl : last = later := List.append_cancel_left same
    refine ⟨rest, .inr (.inr (.inr (.inl (insert_eq_ok_iff.2 ⟨kind, named, columns, tuples, rows,
      word, list, values, rfl, ?_, taken⟩)))), close terminator tail⟩
    rw [endsAfter.nextKind?]
    rcases terminator with rfl | rfl <;> simp

/-- A text is read as a command exactly when the kinds of its tokens are those of the command. -/
theorem statement_eq_ok_iff_command {source : List Char} {kinds : List TokenKind}
    {tokens : List Token} {parsed : Statement} (h : Ends kinds tokens)
    (notQuery : ∀ query, parsed ≠ .select query) :
    statement source tokens = .ok parsed ↔ Command kinds parsed := by
  refine ⟨fun read => ?_, statement_of_command h⟩
  obtain ⟨rest, read, last, after, terminator, ended⟩ := statement_eq_ok.1 read
  exact command_of_body h read terminator ended notQuery

end SqlGrader.Parser

namespace SqlGrader

open SqlGrader.Lexer SqlGrader.Parser

theorem Lexer.Lexed.ends {next? : Option Char} {spans : List Span} (h : Lexed next? spans)
    (position : Nat) : Ends (kindsOf spans) (tokensOf position spans) :=
  ⟨map_kind_tokensOf position spans, eof_notMem_kindsOf h⟩

/-- A text is a command exactly when it lexes to the kinds of the command. -/
theorem Statement.parse_eq_ok_iff {text : String} {parsed : Statement}
    (notQuery : ∀ query, parsed ≠ .select query) :
    Statement.parse text = .ok parsed ↔
      ∃ spans, textOf spans = text.toList ∧ Lexed none spans ∧ Command (kindsOf spans) parsed := by
  unfold Statement.parse
  constructor
  · intro h
    split at h
    · cases h
    · rename_i tokens lexes
      obtain ⟨spans, whole, lexed, rfl⟩ := tokenize_eq_ok_iff.1 lexes
      exact ⟨spans, whole, lexed, (statement_eq_ok_iff_command (lexed.ends 0) notQuery).1 h⟩
  · rintro ⟨spans, whole, lexed, command⟩
    rw [tokenize_eq_ok_iff.2 ⟨spans, whole, lexed, rfl⟩]
    exact statement_of_command (lexed.ends 0) command

end SqlGrader
