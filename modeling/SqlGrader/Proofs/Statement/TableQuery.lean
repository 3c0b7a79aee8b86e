import SqlGrader.Proofs.Session.InsertedRows
import SqlGrader.Proofs.Statement.InterpretedQueries

/-!
# The query for a whole table

`SELECT * FROM` and a word is a query for all rows of the table of that name, also when the word is
a keyword. Main statement: `parse_tableQuery`.
-/

set_option autoImplicit false

namespace SqlGrader

open SqlGrader.Lexer SqlGrader.Parser

/-! ## Words in texts -/

theorem Parser.Command.ne_select {kinds : List TokenKind} {parsed : Statement}
    (command : Command kinds parsed) (query : Select) : parsed ≠ .select query := by
  cases command <;> simp

/-- A text is read as the command that its tokens make up. -/
theorem parse_of_command {text : String} {kinds : List TokenKind} {parsed : Statement}
    (lexes : LexesTo text.toList kinds) (command : Command kinds parsed) :
    Statement.parse text = .ok parsed := by
  obtain ⟨spans, whole, lexed, rfl⟩ := lexes
  exact (Statement.parse_eq_ok_iff command.ne_select).2 ⟨spans, whole, lexed, command⟩

/-- A word makes one token. -/
theorem lexesTo_word {word : String} (h : IsWord word) :
    LexesTo word.toList [wordKind word.toList] :=
  ⟨[⟨word.toList, some (wordKind word.toList)⟩], by simp, ⟨reads_last_word h, trivial⟩, rfl⟩

/-- A word between two texts. -/
theorem lexesTo_word_between {front tail : List Char} {word : String}
    {kinds others : List TokenKind} (lexes : LexesTo front kinds) (noDash : '-' ∉ front)
    (isWord : IsWord word) (behind : LexesTo tail others) :
    LexesTo (front ++ ' ' :: (word.toList ++ ' ' :: tail))
      (kinds ++ wordKind word.toList :: others) :=
  lexes.space noDash ((lexesTo_word isWord).space (notMem_of_isWord isWord (by decide)) behind)

/-! ## The query -/

def tableQuery (table : String) : String :=
  "SELECT * FROM " ++ table

def Select.wholeTable (table : String) : Select :=
  ⟨[.allColumns], some table, none, none, none⟩

theorem parse_tableQuery_of_name {table named : String} (word : IsWord table)
    (read : nameOf? (wordKind table.toList) = some named) :
    Statement.parse (tableQuery table) = .ok (.select (.wholeTable named)) := by
  have select : LexesTo "SELECT * FROM".toList [.keyword .SELECT, .star, .keyword .FROM] :=
    lexesTo_of_toOption (by decide +kernel)
  have whole := select.space (by decide +kernel) (lexesTo_word word)
  have text : (tableQuery table).toList = "SELECT * FROM".toList ++ ' ' :: table.toList := by
    unfold tableQuery
    simp
  rw [← text] at whole
  have tail : SpellsTail [] none none := .bare (.inl rfl)
  exact parse_of_tail (.last spellsItem_star) (by simp) read tail.spellsAlias tail whole

/-- The query for a whole table is read as one. -/
theorem parse_tableQuery {table : String} (word : IsWord table) :
    ∃ named, Statement.parse (tableQuery table) = .ok (.select (.wholeTable named)) ∧
      Store.key named = Store.key table := by
  obtain ⟨named, read, same⟩ := exists_name table.toList
  rw [String.ofList_toList] at same
  exact ⟨named, parse_tableQuery_of_name word read, same⟩

end SqlGrader
