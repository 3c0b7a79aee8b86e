import SqlGrader.Proofs.Statement.Grammar

/-!
# One statement and no more

Every reader of the parser but the one for `CREATE TABLE` stays in front of the first semicolon,
so that the check for the end of the text finds whatever stands behind it. Main statement: a text
that goes on behind its first semicolon is refused exactly when it does not begin like the
creation of a table (`parse_error_iff_of_continues`).
-/

set_option autoImplicit false

namespace SqlGrader.Parser

/-- The tokens up to the rest all stand inside one statement. -/
def Passes (tokens rest : List Token) : Prop :=
  ∃ kinds, Inside kinds ∧ Front kinds tokens rest

theorem Passes.refl (tokens : List Token) : Passes tokens tokens :=
  ⟨[], inside_nil, front_nil.2 rfl⟩

theorem Passes.trans {tokens middle rest : List Token} (h : Passes tokens middle)
    (later : Passes middle rest) : Passes tokens rest := by
  obtain ⟨kinds, inside, front⟩ := h
  obtain ⟨others, insideLater, frontLater⟩ := later
  exact ⟨kinds ++ others, inside_append.2 ⟨inside, insideLater⟩, front.trans frontLater⟩

theorem Passes.cons {t : Token} {tail rest : List Token}
    (inside : t.kind ≠ .semicolon ∧ t.kind ≠ .eof) (h : Passes tail rest) :
    Passes (t :: tail) rest := by
  obtain ⟨kinds, insideLater, front⟩ := h
  exact ⟨t.kind :: kinds, inside_cons.2 ⟨inside, insideLater⟩, front_cons_cons.2 ⟨rfl, front⟩⟩

theorem passes_of_skip? {kind : TokenKind} {tokens rest : List Token}
    (h : skip? kind tokens = some rest) (inside : kind ≠ .semicolon ∧ kind ≠ .eof) :
    Passes tokens rest :=
  ⟨[kind], inside_cons.2 ⟨inside, inside_nil⟩, skip?_eq_some_iff.1 h⟩

theorem passes_of_expect {kind : TokenKind} {tokens rest : List Token}
    (h : expect kind tokens = .ok rest) (inside : kind ≠ .semicolon ∧ kind ≠ .eof) :
    Passes tokens rest :=
  ⟨[kind], inside_cons.2 ⟨inside, inside_nil⟩, expect_eq_ok_iff.1 h⟩

theorem passes_of_name {tokens rest : List Token} {named : String}
    (h : name tokens = .ok (named, rest)) : Passes tokens rest := by
  obtain ⟨kind, read, front⟩ := name_eq_ok_iff.1 h
  exact ⟨[kind], inside_cons.2 ⟨ne_of_nameOf? read, inside_nil⟩, front⟩

theorem passes_of_identifier {tokens rest : List Token} {named : String}
    (h : identifier tokens = .ok (named, rest)) : Passes tokens rest := by
  unfold identifier at h
  split at h
  · cases h
    exact (Passes.refl _).cons ⟨by simp, by simp⟩
  · cases h

/-- Cutting where a property first fails passes over tokens that have it. -/
theorem passes_dropWhile {p : Token → Bool} (tokens : List Token)
    (inside : ∀ t, p t = true → t.kind ≠ .semicolon ∧ t.kind ≠ .eof) :
    Passes tokens (tokens.dropWhile p) := by
  refine ⟨_, fun kind member => ?_, _, List.takeWhile_append_dropWhile.symm, rfl⟩
  obtain ⟨t, taken, rfl⟩ := List.mem_map.1 member
  exact inside t ((Text.longest_front tokens).1 t taken)

/-! ## The readers of queries -/

theorem passes_splitItem (depth : Nat) (tokens : List Token) :
    Passes tokens (splitItem depth tokens).2 := by
  fun_induction splitItem depth tokens with
  | case1 => exact .refl _
  | case2 depth t rest opened ih => exact ih.cons (by simp [opened])
  | case3 depth t rest closed ih => exact ih.cons (by simp [closed])
  | case4 t rest comma => exact .refl _
  | case5 depth t rest comma inner ih => exact ih.cons (by simp [comma])
  | case6 t rest from? => exact .refl _
  | case7 depth t rest from? inner ih => exact ih.cons (by simp [from?])
  | case8 depth t rest semicolon => exact .refl _
  | case9 depth t rest isEnd => exact .refl _
  | case10 depth t rest _ _ _ _ notSemicolon notEnd ih => exact ih.cons ⟨notSemicolon, notEnd⟩

theorem passes_of_selectItem {source : List Char} {tokens rest : List Token} {item : SelectItem}
    (h : selectItem source tokens = .ok (item, rest)) : Passes tokens rest := by
  unfold selectItem at h
  dsimp only at h
  split at h
  · cases h
  · cases h
    exact passes_splitItem 0 tokens

theorem passes_of_selectItems {source : List Char} {tokens rest : List Token}
    {items : List SelectItem} (h : selectItems source tokens = .ok (items, rest)) :
    Passes tokens rest := by
  fun_induction selectItems source tokens generalizing items rest with
  | case1 => cases h
  | case2 tokens first after read => cases h; exact passes_of_selectItem read
  | case3 => cases h
  | case4 tokens first after read next comma _ others last more ih =>
    cases h
    exact (passes_of_selectItem read).trans ((passes_of_skip? comma (by simp)).trans (ih more))

theorem passes_skipAlias (tokens : List Token) : Passes tokens (skipAlias tokens) := by
  have keyword : Passes tokens ((skip? (.keyword .AS) tokens).getD tokens) := by
    cases skipped : skip? (.keyword .AS) tokens with
    | none => exact .refl tokens
    | some rest => exact passes_of_skip? skipped (by simp)
  unfold skipAlias
  split
  · rename_i name position rest named
    rw [named] at keyword
    exact keyword.trans ((Passes.refl rest).cons ⟨by simp, by simp⟩)
  · exact keyword

theorem passes_of_whereClause {source : List Char} {tokens rest : List Token}
    {condition? : Option Predicate} (h : whereClause source tokens = .ok (condition?, rest)) :
    Passes tokens rest := by
  unfold whereClause at h
  split at h
  · cases h
    exact .refl _
  · rename_i after skipped
    simp only [bind_eq_ok_iff] at h
    obtain ⟨⟨predicate, last⟩, read, h⟩ := h
    cases h
    refine (passes_of_skip? skipped (by simp)).trans ?_
    unfold condition at read
    dsimp only at read
    split at read
    · cases read
    · cases read
      apply passes_dropWhile after
      intro t inside
      simp only [insideCondition, Bool.and_eq_true, decide_eq_true_eq] at inside
      exact ⟨inside.1.2, inside.2⟩

theorem passes_of_groupClause {tokens rest : List Token} {column? : Option ColumnRef}
    (h : groupClause tokens = .ok (column?, rest)) : Passes tokens rest := by
  unfold groupClause at h
  split at h
  · cases h
    exact .refl _
  · rename_i after skipped
    simp only [bind_eq_ok_iff] at h
    obtain ⟨afterBy, byWord, ⟨column, last⟩, read, h⟩ := h
    cases h
    refine (passes_of_skip? skipped (by simp)).trans ((passes_of_expect byWord (by simp)).trans ?_)
    simp only [columnRef, bind_eq_ok_iff] at read
    obtain ⟨⟨first, afterFirst⟩, word, read⟩ := read
    split at read
    · cases read
      exact passes_of_identifier word
    · rename_i afterDot dot
      simp only [bind_eq_ok_iff] at read
      obtain ⟨⟨second, afterSecond⟩, other, read⟩ := read
      cases read
      exact (passes_of_identifier word).trans
        ((passes_of_skip? dot (by simp)).trans (passes_of_identifier other))

theorem passes_trailing (source : List Char) (tokens : List Token) :
    Passes tokens (trailing source tokens).2 := by
  have cut : (trailing source tokens).2 = tokens.dropWhile insideStatement := by
    unfold trailing
    dsimp only
    split <;> rfl
  rw [cut]
  apply passes_dropWhile tokens
  intro t inside
  simpa [insideStatement] using inside

theorem passes_of_select {source : List Char} {tokens rest : List Token} {parsed : Statement}
    (h : select source tokens = .ok (parsed, rest)) : Passes tokens rest := by
  simp only [select, bind_eq_ok_iff] at h
  obtain ⟨afterSelect, select, ⟨items, afterItems⟩, read, h⟩ := h
  refine (passes_of_expect select (by simp)).trans ((passes_of_selectItems read).trans ?_)
  split at h
  · cases h
    exact .refl _
  · rename_i afterFrom from?
    simp only [bind_eq_ok_iff] at h
    obtain ⟨⟨table, afterTable⟩, word, ⟨condition?, afterWhere⟩, clause, ⟨group?, afterGroup⟩,
      group, h⟩ := h
    cases h
    exact (passes_of_skip? from? (by simp)).trans <| (passes_of_name word).trans <|
      (passes_skipAlias _).trans <| (passes_of_whereClause clause).trans <|
      (passes_of_groupClause group).trans (passes_trailing source _)

/-! ## The end of a statement -/

/-- What is read of a statement other than the creation of a table stands in front of the first
semicolon. -/
theorem passes_of_body {source : List Char} {tokens rest : List Token} {parsed : Statement}
    (h : body source tokens = .ok (parsed, rest))
    (notCreate : ∀ named, parsed ≠ .createTable named) :
    Passes tokens rest := by
  rcases body_eq_ok_iff.1 h with read | read | read | read | read
  · obtain ⟨_, named, _, -, created, -⟩ := createTable_eq_ok_iff.1 read
    exact absurd created (notCreate named)
  · obtain ⟨kind, named, word, ⟨front, -⟩ | ⟨front, -⟩⟩ := dropTable_eq_ok_iff.1 read <;>
    · exact ⟨_, by simp [ne_of_nameOf? word], front⟩
  · obtain ⟨kind, named, word, -, front⟩ := delete_eq_ok_iff.1 read
    exact ⟨_, by simp [ne_of_nameOf? word], front⟩
  · obtain ⟨kind, named, columns, tuples, rows, word, list, values, -, -, front⟩ :=
      insert_eq_ok_iff.1 read
    exact ⟨_, by simp [ne_of_nameOf? word, list.inside, values.inside], front⟩
  · exact passes_of_select read

/-- A token other than the end of the text stands behind the first semicolon. -/
def ContinuesAfterSemicolon (tokens : List Token) : Prop :=
  ∃ t ∈ (tokens.dropWhile (·.kind ≠ .semicolon)).tail, t.kind ≠ .eof

instance (tokens : List Token) : Decidable (ContinuesAfterSemicolon tokens) :=
  inferInstanceAs (Decidable (∃ t ∈ (tokens.dropWhile (·.kind ≠ .semicolon)).tail, t.kind ≠ .eof))

/-- Whether kinds begin like the creation of a table: `CREATE TABLE`, perhaps `IF NOT EXISTS`,
and a name. -/
def beginsCreation : List TokenKind → Bool
  | .keyword .CREATE :: .keyword .TABLE :: .keyword .IF :: .keyword .NOT :: rest =>
    match rest with
    | .keyword .EXISTS :: kind :: _ => (nameOf? kind).isSome
    | _ => false
  | .keyword .CREATE :: .keyword .TABLE :: kind :: _ => (nameOf? kind).isSome
  | _ => false

theorem beginsCreation_iff {kinds : List TokenKind} :
    beginsCreation kinds = true ↔ ∃ named, Command kinds (.createTable named) := by
  constructor
  · intro h
    unfold beginsCreation at h
    split at h
    · split at h
      · obtain ⟨named, read⟩ := Option.isSome_iff_exists.1 h
        exact ⟨named, .createTableIfNotExists read⟩
      · cases h
    · rename_i kind anything plain
      obtain ⟨named, read⟩ := Option.isSome_iff_exists.1 h
      refine ⟨named, .createTable read ?_⟩
      rintro rfl first
      obtain ⟨rest, rfl⟩ := List.head?_eq_some_iff.1 first
      exact plain rest rfl rfl
    · cases h
  · rintro ⟨named, command⟩
    cases command with
    | @createTable kind _ anything read plain =>
      unfold beginsCreation
      split
      · rename_i rest same
        simp only [List.cons.injEq, true_and] at same
        exact absurd (by simp [same.2]) (plain same.1)
      · rename_i other rest _ same
        simp only [List.cons.injEq, true_and] at same
        rw [← same.1, read]
        rfl
      · rename_i other
        exact absurd rfl (other kind anything)
    | createTableIfNotExists read => simp [beginsCreation, read]

theorem eq_append_of_append_eof {kinds front later : List TokenKind} (noEnd : .eof ∉ front)
    (h : kinds ++ [.eof] = front ++ later) :
    ∃ inner, kinds = front ++ inner ∧ later = inner ++ [.eof] := by
  rcases List.append_eq_append_iff.1 h with ⟨extra, frontKinds, ended⟩ | inner
  · cases extra with
    | nil => exact ⟨[], by simpa using frontKinds.symm, by simpa using ended.symm⟩
    | cons kind extra =>
      obtain ⟨rfl, -⟩ := List.cons.inj ended
      exact absurd (by simp [frontKinds]) noEnd
  · exact inner

/-- The end of the text is no part of the beginning of a creation. -/
theorem beginsCreation_append_eof (kinds : List TokenKind) :
    beginsCreation (kinds ++ [.eof]) = beginsCreation kinds := by
  rw [Bool.eq_iff_iff, beginsCreation_iff, beginsCreation_iff]
  constructor
  · rintro ⟨named, command⟩
    generalize whole : kinds ++ [.eof] = all at command
    cases command with
    | @createTable kind _ anything read plain =>
      have noEnd : .eof ∉ [.keyword .CREATE, .keyword .TABLE, kind] :=
        Inside.eof_notMem (by simp [ne_of_nameOf? read])
      obtain ⟨inner, rfl, rfl⟩ := eq_append_of_append_eof noEnd whole
      refine ⟨named, .createTable read fun isIf (isNot : inner.head? = _) => plain isIf ?_⟩
      rw [List.head?_append, isNot, Option.some_or]
    | @createTableIfNotExists kind _ anything read =>
      have noEnd : .eof ∉ [.keyword .CREATE, .keyword .TABLE, .keyword .IF, .keyword .NOT,
          .keyword .EXISTS, kind] := Inside.eof_notMem (by simp [ne_of_nameOf? read])
      obtain ⟨inner, rfl, rfl⟩ := eq_append_of_append_eof noEnd whole
      exact ⟨named, .createTableIfNotExists read⟩
  · rintro ⟨named, command⟩
    cases command with
    | @createTable kind _ anything read plain =>
      refine ⟨named, .createTable read fun isIf => ?_⟩
      have first := plain isIf
      cases anything with
      | nil => simp
      | cons => simpa using first
    | createTableIfNotExists read => exact ⟨named, .createTableIfNotExists read⟩

/-- Behind a terminator nothing but the end of the text is left. -/
theorem not_continues {kinds last : List TokenKind} {tokens rest after : List Token}
    (h : Ends kinds tokens) (passes : Passes tokens rest) (terminator : Terminator last)
    (ended : Front (last ++ [.eof]) rest after) : ¬ ContinuesAfterSemicolon tokens := by
  obtain ⟨front, inside, taken⟩ := passes
  obtain ⟨later, -, ends⟩ := h.after taken inside.eof_notMem
  obtain rfl := ends.eq_terminator terminator ended
  obtain ⟨ts, rfl, rfl⟩ := taken
  have beforeStop : ∀ t ∈ ts, decide (t.kind ≠ .semicolon) = true :=
    fun t member => decide_eq_true (inside t.kind (List.mem_map_of_mem member)).1
  have kinds := ends.front
  rintro ⟨t, member, notEnd⟩
  rw [List.dropWhile_append_of_pos beforeStop] at member
  rcases terminator with rfl | rfl
  · obtain ⟨u, tail, rfl, isEnd, nothing⟩ := List.map_eq_cons_iff.1 kinds
    obtain rfl := List.map_eq_nil_iff.1 nothing
    simp [isEnd] at member
  · obtain ⟨u, tail, rfl, isSemicolon, others⟩ := List.map_eq_cons_iff.1 kinds
    obtain ⟨v, tail, rfl, isEnd, nothing⟩ := List.map_eq_cons_iff.1 others
    obtain rfl := List.map_eq_nil_iff.1 nothing
    obtain rfl : t = v := by simpa [isSemicolon] using member
    exact notEnd isEnd

/-- What is read of tokens that go on behind a semicolon is the creation of a table. -/
theorem createTable_of_continues {source : List Char} {kinds : List TokenKind}
    {tokens : List Token} {parsed : Statement} (h : Ends kinds tokens)
    (continues : ContinuesAfterSemicolon tokens) (read : statement source tokens = .ok parsed) :
    ∃ named, parsed = .createTable named := by
  obtain ⟨rest, read, last, after, terminator, ended⟩ := statement_eq_ok.1 read
  apply Classical.not_forall_not.1
  intro notCreate
  exact not_continues h (passes_of_body read notCreate) terminator ended continues

/-- A text that goes on behind its first semicolon is refused exactly when it does not begin like
the creation of a table. What follows the name of a new table is never read, so that such a text
creates the table and loses the statements behind it. -/
theorem parse_error_iff_of_continues {text : String} {tokens : List Token}
    (lexes : tokenize text = .ok tokens) (continues : ContinuesAfterSemicolon tokens) :
    (∃ e, Statement.parse text = .error e) ↔ beginsCreation (tokens.map (·.kind)) = false := by
  obtain ⟨spans, whole, lexed, rfl⟩ := Lexer.tokenize_eq_ok_iff.1 lexes
  have ends := lexed.ends 0
  rw [← Bool.not_eq_true, ends.front, beginsCreation_append_eof, beginsCreation_iff]
  constructor
  · rintro ⟨e, failed⟩ ⟨named, command⟩
    rw [(Statement.parse_eq_ok_iff (by simp)).2 ⟨spans, whole, lexed, command⟩] at failed
    cases failed
  · intro notCreation
    cases parsed : Statement.parse text with
    | error e => exact ⟨e, rfl⟩
    | ok statement =>
      have read := parsed
      rw [Statement.parse, lexes] at read
      obtain ⟨named, rfl⟩ := createTable_of_continues ends continues read
      exact absurd ⟨named, (statement_eq_ok_iff_command ends (by simp)).1 read⟩ notCreation

/-- Two statements that remove tables are refused together. -/
theorem parse_two_drops : ∃ tokens, tokenize "DROP TABLE t; DROP TABLE u" = .ok tokens ∧
    ContinuesAfterSemicolon tokens ∧
      ∃ e, Statement.parse "DROP TABLE t; DROP TABLE u" = .error e := by
  have lexes : tokenize "DROP TABLE t; DROP TABLE u" = .ok
      [⟨.keyword .DROP, 0⟩, ⟨.keyword .TABLE, 5⟩, ⟨.identifier "t", 11⟩, ⟨.semicolon, 12⟩,
        ⟨.keyword .DROP, 14⟩, ⟨.keyword .TABLE, 19⟩, ⟨.identifier "u", 25⟩, ⟨.eof, 26⟩] :=
    Lexer.tokenize_of_toOption (by decide +kernel)
  exact ⟨_, lexes, by decide +kernel,
    (parse_error_iff_of_continues lexes (by decide +kernel)).2 (by decide +kernel)⟩

/-- The creation of a table takes in the statement behind its semicolon. -/
theorem not_always_error_of_continues :
    ¬ ∀ (text : String) (tokens : List Token), tokenize text = .ok tokens →
      ContinuesAfterSemicolon tokens → ∃ e, Statement.parse text = .error e := by
  have lexes : tokenize "CREATE TABLE t (id INT); DROP TABLE u" = .ok
      [⟨.keyword .CREATE, 0⟩, ⟨.keyword .TABLE, 7⟩, ⟨.identifier "t", 13⟩, ⟨.leftParen, 15⟩,
        ⟨.identifier "id", 16⟩, ⟨.identifier "INT", 19⟩, ⟨.rightParen, 22⟩, ⟨.semicolon, 23⟩,
        ⟨.keyword .DROP, 25⟩, ⟨.keyword .TABLE, 30⟩, ⟨.identifier "u", 36⟩, ⟨.eof, 37⟩] :=
    Lexer.tokenize_of_toOption (by decide +kernel)
  have created : Statement.parse "CREATE TABLE t (id INT); DROP TABLE u" =
      .ok (.createTable "t") := by
    rw [Statement.parse, lexes]
    rfl
  intro always
  obtain ⟨e, failed⟩ := always _ _ lexes (by decide +kernel)
  rw [created] at failed
  cases failed

end SqlGrader.Parser
