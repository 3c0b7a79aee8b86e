import SqlGrader.Proofs.Statement.Grammar

/-!
# The grammar of insertions

`Insertion` is the grammar of `INSERT`, down to the single literal and up to the end of the text.
None of its rules mentions a reader. The grammar that follows the readers, with its scan for the
end of a literal, says the same of every part. Main statement: a text that begins with `INSERT` is
accepted exactly when its tokens fit the grammar, and then it is the insertion of the tuples that
they spell (`parse_eq_ok_iff_insertion`).
-/

set_option autoImplicit false

namespace SqlGrader.Parser

/-! ## The rules -/

/-- One thing after another with commas between them. -/
inductive Separated {α : Type} (Spells : List TokenKind → α → Prop) :
    List TokenKind → List α → Prop where
  | last {kinds : List TokenKind} {x : α} (one : Spells kinds x) : Separated Spells kinds [x]
  | cons {kinds later : List TokenKind} {x : α} {xs : List α} (one : Spells kinds x)
      (more : Separated Spells later xs) : Separated Spells (kinds ++ .comma :: later) (x :: xs)

/-- A name is an identifier or a keyword, which stands for itself in lower case. -/
inductive SpellsName : List TokenKind → String → Prop where
  | identifier (name : String) : SpellsName [.identifier name] name
  | keyword (k : Keyword) : SpellsName [.keyword k] k.word

/-- A literal is one text, one word or one number; a number may have a sign. -/
inductive SpellsLiteral : List TokenKind → Literal → Prop where
  | quoted (s : String) : SpellsLiteral [.string s] (.quoted s)
  | bare (word : String) : SpellsLiteral [.identifier word] (.bare word)
  | integer (i : Int64) : SpellsLiteral [.integer i] (.integer i)
  | plusInteger (i : Int64) : SpellsLiteral [.plus, .integer i] (.integer i)
  | minusInteger (i : Int64) : SpellsLiteral [.minus, .integer i] (.integer (-i))
  | float (x : Binary64) : SpellsLiteral [.float x] (.float x)
  | plusFloat (x : Binary64) : SpellsLiteral [.plus, .float x] (.float x)
  | minusFloat (x : Binary64) : SpellsLiteral [.minus, .float x] (.float x.neg)

/-- A tuple is a pair of parentheses, perhaps with literals between them. -/
inductive SpellsValues : List TokenKind → List Literal → Prop where
  | empty : SpellsValues [.leftParen, .rightParen] []
  | literals {kinds : List TokenKind} {row : List Literal}
      (spelled : Separated SpellsLiteral kinds row) :
      SpellsValues (.leftParen :: (kinds ++ [.rightParen])) row

/-- The columns of an insertion, if they are there, are names in parentheses. -/
inductive SpellsColumns : List TokenKind → List String → Prop where
  | absent : SpellsColumns [] []
  | names {kinds : List TokenKind} {columns : List String}
      (names : Separated SpellsName kinds columns) :
      SpellsColumns (.leftParen :: (kinds ++ [.rightParen])) columns

/-- `INSERT INTO name [(name, ...)] VALUES (literal, ...), ... [;]` up to the end of the text. The
columns are no part of what is inserted. -/
inductive Insertion : List TokenKind → String → List (List Literal) → Prop where
  | of {name columns values last : List TokenKind} {table : String} {list : List String}
      {rows : List (List Literal)} (named : SpellsName name table)
      (names : SpellsColumns columns list) (tuples : Separated SpellsValues values rows)
      (ends : last = [] ∨ last = [.semicolon]) :
      Insertion (.keyword .INSERT :: .keyword .INTO :: (name ++ (columns ++
        .keyword .VALUES :: (values ++ (last ++ [.eof]))))) table rows

/-! ## The rules and the readers -/

theorem spellsName_iff {kinds : List TokenKind} {named : String} :
    SpellsName kinds named ↔ ∃ kind, kinds = [kind] ∧ nameOf? kind = some named := by
  constructor
  · intro spelled
    cases spelled with
    | identifier => exact ⟨_, rfl, rfl⟩
    | keyword => exact ⟨_, rfl, rfl⟩
  · rintro ⟨kind, single, read⟩
    subst single
    unfold nameOf? at read
    split at read
    · cases read
      exact .identifier _
    · cases read
      exact .keyword _
    · cases read

theorem spellsLiteral_iff {kinds : List TokenKind} {value : Literal} :
    SpellsLiteral kinds value ↔ literalOf? kinds = some value := by
  constructor
  · intro spelled
    cases spelled <;> rfl
  · intro read
    unfold literalOf? at read
    split at read <;> cases read <;> constructor

theorem separated_literals_iff {kinds : List TokenKind} {row : List Literal} :
    Separated SpellsLiteral kinds row ↔ SpellsRow kinds row := by
  constructor
  · intro spelled
    induction spelled with
    | last one => exact .last (spellsLiteral_iff.1 one)
    | cons one _ ih => exact .cons (spellsLiteral_iff.1 one) ih
  · intro spelled
    induction spelled with
    | last read => exact .last (spellsLiteral_iff.2 read)
    | cons read _ ih => exact .cons (spellsLiteral_iff.2 read) ih

theorem spellsValues_iff {kinds : List TokenKind} {row : List Literal} :
    SpellsValues kinds row ↔ SpellsTuple kinds row := by
  constructor
  · intro spelled
    cases spelled with
    | empty => exact .empty
    | literals spelled => exact .row (separated_literals_iff.1 spelled)
  · intro spelled
    cases spelled with
    | empty => exact .empty
    | row read => exact .literals (separated_literals_iff.2 read)

theorem separated_values_iff {kinds : List TokenKind} {rows : List (List Literal)} :
    Separated SpellsValues kinds rows ↔ SpellsTuples kinds rows := by
  constructor
  · intro spelled
    induction spelled with
    | last one => exact .last (spellsValues_iff.1 one)
    | cons one _ ih => exact .cons (spellsValues_iff.1 one) ih
  · intro spelled
    induction spelled with
    | last read => exact .last (spellsValues_iff.2 read)
    | cons read _ ih => exact .cons (spellsValues_iff.2 read) ih

/-- The reader of columns keeps none of their names. -/
theorem spellsNames_iff {kinds : List TokenKind} :
    SpellsNames kinds ↔ ∃ columns, Separated SpellsName kinds columns := by
  constructor
  · intro spelled
    induction spelled with
    | last read => exact ⟨_, .last (spellsName_iff.2 ⟨_, rfl, read⟩)⟩
    | cons read _ ih =>
      obtain ⟨columns, names⟩ := ih
      exact ⟨_ :: columns, .cons (spellsName_iff.2 ⟨_, rfl, read⟩) names⟩
  · rintro ⟨columns, names⟩
    induction names with
    | last one =>
      obtain ⟨kind, rfl, read⟩ := spellsName_iff.1 one
      exact .last read
    | cons one _ ih =>
      obtain ⟨kind, rfl, read⟩ := spellsName_iff.1 one
      exact .cons read ih

theorem columnList_iff {kinds : List TokenKind} :
    ColumnList kinds ↔ ∃ columns, SpellsColumns kinds columns := by
  constructor
  · intro list
    cases list with
    | absent => exact ⟨[], .absent⟩
    | names read =>
      obtain ⟨columns, names⟩ := spellsNames_iff.1 read
      exact ⟨columns, .names names⟩
  · rintro ⟨columns, spelled⟩
    cases spelled with
    | absent => exact .absent
    | names names => exact .names (spellsNames_iff.2 ⟨columns, names⟩)

/-- An insertion is the one command that begins with `INSERT`. -/
theorem insertion_iff_command {kinds : List TokenKind} {table : String}
    {rows : List (List Literal)} :
    Insertion (kinds ++ [.eof]) table rows ↔ Command kinds (.insert table rows) := by
  constructor
  · intro insertion
    generalize whole : kinds ++ [.eof] = all at insertion
    obtain ⟨named, names, tuples, ends⟩ := insertion
    obtain ⟨kind, rfl, read⟩ := spellsName_iff.1 named
    simp only [← List.cons_append, ← List.append_assoc] at whole
    obtain rfl := List.append_cancel_right whole
    simpa using Command.insert read (columnList_iff.2 ⟨_, names⟩) (separated_values_iff.1 tuples)
      ends
  · intro command
    cases command with
    | insert read list values ends =>
      obtain ⟨columns, names⟩ := columnList_iff.1 list
      simpa using Insertion.of (spellsName_iff.2 ⟨_, rfl, read⟩) names
        (separated_values_iff.2 values) ends

/-- A statement that begins with `INSERT` can only be an insertion. -/
theorem exists_eq_insert {source : List Char} {tokens : List Token} {parsed : Statement}
    (starts : nextKind? tokens = some (.keyword .INSERT))
    (read : statement source tokens = .ok parsed) :
    ∃ table rows, parsed = .insert table rows := by
  obtain ⟨rest, read, -⟩ := statement_eq_ok.1 read
  obtain ⟨t, head, isInsert⟩ := Option.map_eq_some_iff.1 starts
  obtain ⟨tail, rfl⟩ := List.head?_eq_some_iff.1 head
  have inserts : insert source (t :: tail) = .ok (parsed, rest) := by
    simpa only [body, isInsert] using read
  obtain ⟨_, table, _, _, rows, -, -, -, same, -⟩ := insert_eq_ok_iff.1 inserts
  exact ⟨table, rows, same⟩

/-- Tokens that begin with `INSERT` are a statement exactly if they are an insertion. -/
theorem statement_eq_ok_iff_insertion {source : List Char} {kinds : List TokenKind}
    {tokens : List Token} {parsed : Statement} (h : Ends kinds tokens)
    (starts : nextKind? tokens = some (.keyword .INSERT)) :
    statement source tokens = .ok parsed ↔
      ∃ table rows, Insertion (kinds ++ [.eof]) table rows ∧ parsed = .insert table rows := by
  constructor
  · intro read
    obtain ⟨table, rows, rfl⟩ := exists_eq_insert starts read
    have command := (statement_eq_ok_iff_command h (by simp)).1 read
    exact ⟨table, rows, insertion_iff_command.2 command, rfl⟩
  · rintro ⟨table, rows, insertion, same⟩
    subst same
    exact (statement_eq_ok_iff_command h (by simp)).2 (insertion_iff_command.1 insertion)

/-- A text whose tokens begin with `INSERT` is accepted exactly when they fit the grammar of
insertions. It then inserts the tuples that they spell, in order and with every sign applied, into
the table that they name; the columns have no part in it. -/
theorem parse_eq_ok_iff_insertion {text : String} {tokens : List Token} {parsed : Statement}
    (lexes : tokenize text = .ok tokens) (starts : nextKind? tokens = some (.keyword .INSERT)) :
    Statement.parse text = .ok parsed ↔
      ∃ table rows, Insertion (tokens.map (·.kind)) table rows ∧ parsed = .insert table rows := by
  obtain ⟨spans, -, lexed, rfl⟩ := Lexer.tokenize_eq_ok_iff.1 lexes
  rw [Statement.parse, lexes, Lexer.map_kind_tokensOf]
  exact statement_eq_ok_iff_insertion (lexed.ends 0) starts

/-- Keywords name the table and a column, numbers have signs, and a tuple is empty. -/
theorem parse_insertion_of_signs :
    let text := "INSERT INTO Values (count, x) VALUES (-1, +2, NULL), (), ('a');"
    ∃ tokens, tokenize text = .ok tokens ∧ nextKind? tokens = some (.keyword .INSERT) ∧
      Insertion (tokens.map (·.kind)) "values"
        [[.integer (-1), .integer 2, .bare "NULL"], [], [.quoted "a"]] := by
  intro text
  have parsed : Statement.parse text = .ok (.insert "values"
      [[.integer (-1), .integer 2, .bare "NULL"], [], [.quoted "a"]]) :=
    Lexer.eq_ok_of_toOption (by decide +kernel)
  have first : (tokenize text).toOption.bind nextKind? = some (.keyword .INSERT) := by
    decide +kernel
  obtain ⟨tokens, lexed, starts⟩ := Option.bind_eq_some_iff.1 first
  have lexes := Lexer.tokenize_of_toOption lexed
  obtain ⟨table, rows, insertion, same⟩ := (parse_eq_ok_iff_insertion lexes starts).1 parsed
  cases same
  exact ⟨tokens, lexes, starts, insertion⟩

end SqlGrader.Parser
