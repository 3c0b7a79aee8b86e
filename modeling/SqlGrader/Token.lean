import SqlGrader.Cell
import SqlGrader.Text.Quoted

/-!
# Tokens

The words and signs of a statement, each with the byte offset of its first character.

Source: `keyword` and `from_word`.
-/

set_option autoImplicit false

namespace SqlGrader

inductive Keyword where
  | SELECT | FROM | WHERE | GROUP | BY | ORDER | LIMIT | AS | LIKE | COUNT
  | CREATE | TABLE | DROP | IF | NOT | EXISTS | DELETE | INSERT | INTO | VALUES
  deriving DecidableEq

namespace Keyword

def all : List Keyword :=
  [SELECT, FROM, WHERE, GROUP, BY, ORDER, LIMIT, AS, LIKE, COUNT,
   CREATE, TABLE, DROP, IF, NOT, EXISTS, DELETE, INSERT, INTO, VALUES]

def word : Keyword → String
  | SELECT => "select" | FROM => "from" | WHERE => "where" | GROUP => "group" | BY => "by"
  | ORDER => "order" | LIMIT => "limit" | AS => "as" | LIKE => "like" | COUNT => "count"
  | CREATE => "create" | TABLE => "table" | DROP => "drop" | IF => "if" | NOT => "not"
  | EXISTS => "exists" | DELETE => "delete" | INSERT => "insert" | INTO => "into"
  | VALUES => "values"

def label : Keyword → String
  | SELECT => "Select" | FROM => "From" | WHERE => "Where" | GROUP => "Group" | BY => "By"
  | ORDER => "Order" | LIMIT => "Limit" | AS => "As" | LIKE => "Like" | COUNT => "Count"
  | CREATE => "Create" | TABLE => "Table" | DROP => "Drop" | IF => "If" | NOT => "Not"
  | EXISTS => "Exists" | DELETE => "Delete" | INSERT => "Insert" | INTO => "Into"
  | VALUES => "Values"

/-- The keyword that a word spells in any case of its ASCII letters. -/
def ofWord? (word : List Char) : Option Keyword :=
  let lowered := String.ofList (word.map Char.toLower)
  all.find? fun keyword => keyword.word == lowered

end Keyword

/-- What a token is. Characters without a use in the dialect are tokens too, so that the parts
of a statement that are not interpreted can hold them. -/
inductive TokenKind where
  | keyword (keyword : Keyword)
  | integer (value : Int64)
  | float (value : Binary64)
  | string (value : String)
  | identifier (name : String)
  | plus | minus | star | equal | greater | comma | dot | semicolon | leftParen | rightParen
  | symbol (c : Char)
  | eof
  deriving DecidableEq

namespace TokenKind

def keyword? : TokenKind → Option Keyword
  | keyword k => some k
  | _ => none

def description : TokenKind → String
  | keyword k => k.label
  | integer i => "Integer(" ++ String.ofList (Text.integerText i.toInt) ++ ")"
  | float x => "Float(" ++ String.ofList (NumberFormat.message.text x) ++ ")"
  | string s => "String(" ++ Text.quoted s ++ ")"
  | identifier s => "Identifier(" ++ Text.quoted s ++ ")"
  | plus => "Plus"
  | minus => "Minus"
  | star => "Star"
  | equal => "Eq"
  | greater => "Gt"
  | comma => "Comma"
  | dot => "Dot"
  | semicolon => "Semicolon"
  | leftParen => "LParen"
  | rightParen => "RParen"
  | symbol c => "Symbol(" ++ Text.quotedSymbol c ++ ")"
  | eof => "Eof"

end TokenKind

/-- A token and the byte offset of its first character. -/
structure Token where
  kind : TokenKind
  position : Nat
  deriving DecidableEq

end SqlGrader
