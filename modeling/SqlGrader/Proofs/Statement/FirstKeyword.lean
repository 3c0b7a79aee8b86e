import SqlGrader.Proofs.Session.InsertedRows

/-!
# Statements that are put together from texts

A statement that is put together from a keyword and the name of a table is what its keyword says,
or it is no statement: whatever stands in the name, the lexer is done with the keyword before it
comes to it. Main statements: `delete_of_parse`, `insert_of_parse`.
-/

set_option autoImplicit false

namespace SqlGrader

open SqlGrader.Lexer SqlGrader.Parser

/-- The first token of a text that begins with a word and a space is that of the word. -/
theorem Lexer.first_of_tokenize {text : String} {word rest : List Char} {kind : TokenKind}
    {tokens : List Token} (begins : text.toList = word ++ ' ' :: rest)
    (reads : Reads (some ' ') word (some kind)) (lexes : tokenize text = .ok tokens) :
    ∃ later, tokens = ⟨kind, 0⟩ :: later := by
  rw [tokenize, begins] at lexes
  cases word with
  | nil => exact absurd rfl reads.text_ne_nil
  | cons c letters =>
    -- the space ends the word, so that nothing behind it has a part in the first step
    have step : nextLexeme 0 c (letters ++ ' ' :: rest) =
        .ok ⟨some kind, Text.byteLength (c :: letters), ' ' :: rest⟩ :=
      nextLexeme_of_reads 0 reads
    rw [List.cons_append] at lexes
    obtain ⟨lexeme, later, taken, -, rfl⟩ := tokensFrom_cons_eq_ok_iff.1 lexes
    rw [step] at taken
    cases taken
    exact ⟨later, rfl⟩

/-- A statement behind a word and a space is read from the token of the word on. -/
theorem body_of_parse {text : String} {word rest : List Char} {kind : TokenKind}
    {parsed : Statement} (begins : text.toList = word ++ ' ' :: rest)
    (reads : Reads (some ' ') word (some kind)) (h : Statement.parse text = .ok parsed) :
    ∃ later after, body text.toList (⟨kind, 0⟩ :: later) = .ok (parsed, after) := by
  cases lexes : tokenize text with
  | error e =>
    rw [Statement.parse, lexes] at h
    cases h
  | ok tokens =>
    rw [Statement.parse, lexes] at h
    obtain ⟨after, read, -⟩ := statement_eq_ok.1 h
    obtain ⟨later, rfl⟩ := first_of_tokenize begins reads lexes
    exact ⟨later, after, read⟩

/-- Whatever the name of a table is, the statement that empties it can do nothing else. -/
theorem delete_of_parse {table : String} {parsed : Statement}
    (h : Statement.parse (deleteStatement table) = .ok parsed) :
    ∃ named, parsed = .delete named := by
  have reads : Reads (some ' ') "DELETE".toList (some (.keyword .DELETE)) :=
    reads_word (by decide)
  have begins : (deleteStatement table).toList =
      "DELETE".toList ++ ' ' :: ("FROM ".toList ++ table.toList) := by
    simp [deleteStatement]
  obtain ⟨later, after, read⟩ := body_of_parse begins reads h
  have deletes : delete (⟨.keyword .DELETE, 0⟩ :: later) = .ok (parsed, after) := read
  obtain ⟨kind, named, -, same, -⟩ := delete_eq_ok_iff.1 deletes
  exact ⟨named, same⟩

/-- Whatever the name of a table and the cells of a row are, the statement that inserts the row
can do nothing but insert. -/
theorem insert_of_parse {table : String} {row : Row} {parsed : Statement}
    (h : Statement.parse (insertStatement table row) = .ok parsed) :
    ∃ named rows, parsed = .insert named rows := by
  have reads : Reads (some ' ') "INSERT".toList (some (.keyword .INSERT)) :=
    reads_word (by decide)
  have begins : ∃ rest, (insertStatement table row).toList = "INSERT".toList ++ ' ' :: rest := by
    unfold insertStatement
    simp
  obtain ⟨rest, begins⟩ := begins
  obtain ⟨later, after, read⟩ := body_of_parse begins reads h
  have inserts : insert (insertStatement table row).toList (⟨.keyword .INSERT, 0⟩ :: later) =
      .ok (parsed, after) := read
  obtain ⟨kind, named, _, _, rows, -, -, -, same, -⟩ := insert_eq_ok_iff.1 inserts
  exact ⟨named, rows, same⟩

end SqlGrader
