import SqlGrader.Statement
import SqlGrader.Statement.ParseError
import SqlGrader.Unicode.WhiteSpace

/-!
# Parsing

A statement is read from its tokens. Each reader takes the tokens that are left and returns
what it read together with the tokens after it; the last token is always the end of the text.
The text of a part that is not interpreted runs from its first token to the next one after it.

Source: `parse` with `parse_create_table`, `parse_drop_table`, `parse_delete`, `parse_insert` and
`parse_select`; `SPEC_FULL.md`, sections 4.1 and 4.2.
-/

set_option autoImplicit false

namespace SqlGrader

namespace Parser

/-- A value that was read, and the tokens after it. -/
abbrev Reading (α : Type) := α × List Token

/-- The byte offset of the first token, or `default` without one. -/
def positionOf (default : Nat) : List Token → Nat
  | [] => default
  | t :: _ => t.position

/-- The text from one place among the tokens to a later one, without white space at its ends. -/
def textBetween (source : List Char) (start stop : List Token) : String :=
  let text? := Text.slice? source (positionOf 0 start)
    (positionOf (Text.byteLength source) stop)
  String.ofList (Unicode.trim (text?.getD []))

def unexpected (expected : Expectation) : List Token → ParseError
  | [] => .unexpectedEnd
  | t :: _ =>
    if t.kind = .eof then .unexpectedEnd else .unexpectedToken expected t.kind t.position

/-- The tokens after one of a given kind, if that is the next one. -/
def skip? (kind : TokenKind) : List Token → Option (List Token)
  | [] => none
  | t :: rest => if t.kind = kind then some rest else none

/-- The tokens after one that has to come next. -/
def expect (kind : TokenKind) (tokens : List Token) : Except ParseError (List Token) :=
  match skip? kind tokens with
  | some rest => .ok rest
  | none => .error (unexpected (.token kind) tokens)

theorem length_of_skip? {kind : TokenKind} {tokens rest : List Token}
    (h : skip? kind tokens = some rest) : rest.length < tokens.length := by
  cases tokens with
  | nil => simp [skip?] at h
  | cons t ts =>
    simp only [skip?, Option.ite_none_right_eq_some, Option.some.injEq] at h
    simp [h.2]

theorem length_of_expect {kind : TokenKind} {tokens rest : List Token}
    (h : expect kind tokens = .ok rest) : rest.length < tokens.length := by
  unfold expect at h
  split at h
  · rename_i hskip
    cases h
    exact length_of_skip? hskip
  · cases h

/-- The name that a token can stand for: an identifier, or a keyword in lower case. -/
def nameOf? : TokenKind → Option String
  | .identifier name => some name
  | .keyword k => some k.word
  | _ => none

/-- The name of a table or column in a statement other than a query. -/
def name : List Token → Except ParseError (Reading String)
  | [] => .error (unexpected .name [])
  | t :: rest =>
    match nameOf? t.kind with
    | some name => .ok (name, rest)
    | none => .error (unexpected .name (t :: rest))

/-- An identifier; keywords do not count. -/
def identifier : List Token → Except ParseError (Reading String)
  | ⟨.identifier name, _⟩ :: rest => .ok (name, rest)
  | tokens => .error (unexpected .identifier tokens)

/-- A column, perhaps with the name of its table and a dot in front. -/
def columnRef (tokens : List Token) : Except ParseError (Reading ColumnRef) := do
  let (first, rest) ← identifier tokens
  match skip? .dot rest with
  | none => return (⟨none, first⟩, rest)
  | some rest =>
    let (column, rest) ← identifier rest
    return (⟨some first, column⟩, rest)

/-! ## Tables -/

/-- `CREATE TABLE`. Whatever follows the name is not interpreted. -/
def createTable (tokens : List Token) : Except ParseError (Reading Statement) := do
  let rest ← expect (.keyword .CREATE) tokens
  let rest ← expect (.keyword .TABLE) rest
  let rest ←
    match skip? (.keyword .IF) rest >>= skip? (.keyword .NOT) with
    | some rest => expect (.keyword .EXISTS) rest
    | none => pure rest
  let (name, rest) ← name rest
  return (.createTable name, rest.dropWhile (·.kind ≠ .eof))

def dropTable (tokens : List Token) : Except ParseError (Reading Statement) := do
  let rest ← expect (.keyword .DROP) tokens
  let rest ← expect (.keyword .TABLE) rest
  match skip? (.keyword .IF) rest >>= skip? (.keyword .EXISTS) with
  | some rest =>
    let (name, rest) ← name rest
    return (.dropTable name true, rest)
  | none =>
    let (name, rest) ← name rest
    return (.dropTable name false, rest)

def delete (tokens : List Token) : Except ParseError (Reading Statement) := do
  let rest ← expect (.keyword .DELETE) tokens
  let rest ← expect (.keyword .FROM) rest
  let (table, rest) ← name rest
  return (.delete table, rest)

/-! ## Rows -/

/-- The literal that a span of tokens makes up: one text, one number with or without a sign, or
one word. -/
def literalOf? : List TokenKind → Option Literal
  | [.string s] => some (.quoted s)
  | [.integer i] => some (.integer i)
  | [.float x] => some (.float x)
  | [.minus, .integer i] => some (.integer (-i))
  | [.minus, .float x] => some (.float x.neg)
  | [.plus, .integer i] => some (.integer i)
  | [.plus, .float x] => some (.float x)
  | [.identifier word] => some (.bare word)
  | _ => none

/-- Whether a token belongs to the literal before it. -/
def insideLiteral (t : Token) : Bool :=
  t.kind ≠ .comma && t.kind ≠ .rightParen && t.kind ≠ .eof

/-- The literal up to the next comma, closing parenthesis or end of the text. -/
def literal (source : List Char) (tokens : List Token) : Except ParseError Literal :=
  let span := tokens.takeWhile insideLiteral
  match literalOf? (span.map (·.kind)) with
  | some literal => .ok literal
  | none =>
    match span with
    | [] => .error (unexpected .literal tokens)
    | first :: _ =>
      .error (.malformedLiteral (textBetween source tokens (tokens.dropWhile insideLiteral))
        first.position)

def literals (source : List Char) (tokens : List Token) :
    Except ParseError (Reading (List Literal)) :=
  match literal source tokens with
  | .error e => .error e
  | .ok first =>
    match h : skip? .comma (tokens.dropWhile insideLiteral) with
    | none => .ok ([first], tokens.dropWhile insideLiteral)
    | some rest =>
      have : rest.length < tokens.length :=
        Nat.lt_of_lt_of_le (length_of_skip? h) (Lexer.length_dropWhile_le _ _)
      match literals source rest with
      | .error e => .error e
      | .ok (others, rest) => .ok (first :: others, rest)
termination_by tokens.length

/-- One row in parentheses, perhaps an empty one. -/
def tuple (source : List Char) (tokens : List Token) :
    Except ParseError (Reading (List Literal)) := do
  let rest ← expect .leftParen tokens
  match skip? .rightParen rest with
  | some rest => return ([], rest)
  | none =>
    let (row, rest) ← literals source rest
    let rest ← expect .rightParen rest
    return (row, rest)

theorem length_of_literals {source : List Char} {tokens : List Token} {row : List Literal}
    {rest : List Token} (h : literals source tokens = .ok (row, rest)) :
    rest.length ≤ tokens.length := by
  fun_induction literals source tokens generalizing row rest with
  | case1 => cases h
  | case2 => cases h; exact Lexer.length_dropWhile_le _ _
  | case3 => cases h
  | case4 tokens first _ next hskip _ others last hlast ih =>
    cases h
    have := length_of_skip? hskip
    have := Lexer.length_dropWhile_le insideLiteral tokens
    have := ih hlast
    omega

theorem length_of_tuple {source : List Char} {tokens : List Token} {row : List Literal}
    {rest : List Token} (h : tuple source tokens = .ok (row, rest)) :
    rest.length < tokens.length := by
  unfold tuple at h
  cases hopen : expect .leftParen tokens with
  | error e => simp [hopen, bind, Except.bind] at h
  | ok inner =>
    have hinner := length_of_expect hopen
    simp only [hopen, bind, Except.bind] at h
    split at h
    · rename_i hskip
      cases h
      have := length_of_skip? hskip
      omega
    · cases hrow : literals source inner with
      | error e => simp [hrow] at h
      | ok read =>
        obtain ⟨row', after⟩ := read
        have hafter := length_of_literals hrow
        simp only [hrow] at h
        cases hclose : expect .rightParen after with
        | error e => simp [hclose] at h
        | ok last =>
          have hlast := length_of_expect hclose
          simp only [hclose] at h
          cases h
          omega

def tuples (source : List Char) (tokens : List Token) :
    Except ParseError (Reading (List (List Literal))) :=
  match hfirst : tuple source tokens with
  | .error e => .error e
  | .ok (first, rest) =>
    match hskip : skip? .comma rest with
    | none => .ok ([first], rest)
    | some rest =>
      have : rest.length < tokens.length :=
        Nat.lt_trans (length_of_skip? hskip) (length_of_tuple hfirst)
      match tuples source rest with
      | .error e => .error e
      | .ok (others, rest) => .ok (first :: others, rest)
termination_by tokens.length

/-- Column names with commas between them; they have no effect. -/
def columnNames : List Token → Except ParseError (List Token)
  | [] => .error (unexpected .name [])
  | t :: rest =>
    match nameOf? t.kind with
    | none => .error (unexpected .name (t :: rest))
    | some _ =>
      match rest with
      | ⟨.comma, _⟩ :: rest => columnNames rest
      | _ => .ok rest

/-- `INSERT INTO`. Values go by place, so that a list of columns is read and dropped. -/
def insert (source : List Char) (tokens : List Token) : Except ParseError (Reading Statement) := do
  let rest ← expect (.keyword .INSERT) tokens
  let rest ← expect (.keyword .INTO) rest
  let (table, rest) ← name rest
  let rest ←
    match skip? .leftParen rest with
    | some rest => columnNames rest >>= expect .rightParen
    | none => pure rest
  let rest ← expect (.keyword .VALUES) rest
  let (rows, rest) ← tuples source rest
  return (.insert table rows, rest)

/-! ## Queries -/

/-- The tokens of one select item, and those from the comma, `FROM` or end on that ends it.
Commas and `FROM` inside parentheses belong to the item. -/
def splitItem (depth : Nat) : List Token → List Token × List Token
  | [] => ([], [])
  | t :: rest =>
    match t.kind with
    | .leftParen => (splitItem (depth + 1) rest).map (t :: ·) id
    | .rightParen => (splitItem (depth - 1) rest).map (t :: ·) id
    | .comma | .keyword .FROM =>
      if depth = 0 then ([], t :: rest) else (splitItem depth rest).map (t :: ·) id
    | .semicolon | .eof => ([], t :: rest)
    | _ => (splitItem depth rest).map (t :: ·) id

/-- The item that a span of tokens makes up, if it is a recognised one. -/
def itemOf? : List TokenKind → Option SelectItem
  | [.star] => some .allColumns
  | [.identifier _, .dot, .star] => some .allColumns
  | [.keyword .COUNT, .leftParen, .star, .rightParen] => some .countAll
  | [.identifier column] => some (.column ⟨none, column⟩)
  | [.identifier table, .dot, .identifier column] => some (.column ⟨some table, column⟩)
  | _ => none

/-- A span of tokens without the `AS` and the identifier at its end. -/
def dropAlias (kinds : List TokenKind) : List TokenKind :=
  match kinds.reverse with
  | .identifier _ :: .keyword .AS :: before => before.reverse
  | _ => kinds

/-- A span of tokens without the identifier at its end, if it has one there. -/
def dropBareAlias? (kinds : List TokenKind) : Option (List TokenKind) :=
  match kinds.reverse with
  | .identifier _ :: before => some before.reverse
  | _ => none

/-- The item that a span of tokens makes up, with or without an alias. -/
def aliasedItemOf? (kinds : List TokenKind) : Option SelectItem :=
  let body := dropAlias kinds
  (itemOf? body).or ((dropBareAlias? body).bind itemOf?)

def selectItem (source : List Char) (tokens : List Token) :
    Except ParseError (Reading SelectItem) :=
  let (item, rest) := splitItem 0 tokens
  match item with
  | [] => .error (unexpected .selectItem tokens)
  | _ :: _ =>
    .ok ((aliasedItemOf? (item.map (·.kind))).getD (.expression (textBetween source tokens rest)),
      rest)

theorem length_of_splitItem (depth : Nat) (tokens : List Token) :
    (splitItem depth tokens).2.length ≤ tokens.length := by
  induction tokens generalizing depth with
  | nil => simp [splitItem]
  | cons t rest ih =>
    unfold splitItem
    split
    · exact Nat.le_succ_of_le (ih _)
    · exact Nat.le_succ_of_le (ih _)
    · split
      · exact Nat.le_refl _
      · exact Nat.le_succ_of_le (ih _)
    · split
      · exact Nat.le_refl _
      · exact Nat.le_succ_of_le (ih _)
    · exact Nat.le_refl _
    · exact Nat.le_refl _
    · exact Nat.le_succ_of_le (ih _)

theorem length_of_selectItem {source : List Char} {tokens : List Token} {item : SelectItem}
    {rest : List Token} (h : selectItem source tokens = .ok (item, rest)) :
    rest.length ≤ tokens.length := by
  unfold selectItem at h
  dsimp only at h
  split at h
  · cases h
  · cases h
    exact length_of_splitItem 0 tokens

def selectItems (source : List Char) (tokens : List Token) :
    Except ParseError (Reading (List SelectItem)) :=
  match hfirst : selectItem source tokens with
  | .error e => .error e
  | .ok (first, rest) =>
    match hskip : skip? .comma rest with
    | none => .ok ([first], rest)
    | some rest =>
      have : rest.length < tokens.length :=
        Nat.lt_of_lt_of_le (length_of_skip? hskip) (length_of_selectItem hfirst)
      match selectItems source rest with
      | .error e => .error e
      | .ok (others, rest) => .ok (first :: others, rest)
termination_by tokens.length

/-- The tokens after an alias of the table, with or without `AS`. -/
def skipAlias (tokens : List Token) : List Token :=
  match (skip? (.keyword .AS) tokens).getD tokens with
  | ⟨.identifier _, _⟩ :: rest => rest
  | rest => rest

def unsignedNumber? : List Token → Option (Reading Binary64)
  | ⟨.integer i, _⟩ :: rest => some (.ofInt64 i, rest)
  | ⟨.float x, _⟩ :: rest => some (x, rest)
  | _ => none

def number? (tokens : List Token) : Option (Reading Binary64) :=
  match skip? .minus tokens with
  | some rest => (unsignedNumber? rest).map fun (x, rest) => (x.neg, rest)
  | none => unsignedNumber? tokens

/-- The sign of a comparison and what the column is compared with. -/
def comparisonOf? (column : ColumnRef) : List Token → Option (Reading Predicate)
  | ⟨.keyword .LIKE, _⟩ :: ⟨.string pattern, _⟩ :: rest => some (.like column pattern, rest)
  | ⟨.equal, _⟩ :: ⟨.string value, _⟩ :: rest => some (.textEquals column value, rest)
  | ⟨.equal, _⟩ :: rest => (number? rest).map fun (x, rest) => (.numberEquals column x, rest)
  | ⟨.greater, _⟩ :: rest => (number? rest).map fun (x, rest) => (.greaterThan column x, rest)
  | _ => none

/-- A comparison at the front of the tokens, wherever the clause ends in which it stands. -/
def comparison? (tokens : List Token) : Option (Reading Predicate) :=
  match columnRef tokens with
  | .error _ => none
  | .ok (column, rest) => comparisonOf? column rest

/-- Whether a token belongs to the condition before it. -/
def insideCondition (t : Token) : Bool :=
  t.kind ≠ .keyword .GROUP && t.kind ≠ .keyword .ORDER && t.kind ≠ .keyword .LIMIT
    && t.kind ≠ .semicolon && t.kind ≠ .eof

/-- The condition up to the next clause or the end of the statement. A comparison has to end there
too, or the condition is not interpreted. -/
def condition (source : List Char) (tokens : List Token) : Except ParseError (Reading Predicate) :=
  let rest := tokens.dropWhile insideCondition
  match tokens.takeWhile insideCondition with
  | [] => .error (unexpected .predicate tokens)
  | _ :: _ =>
    let recognised? := (comparison? tokens).filter fun read => read.2.length = rest.length
    .ok ((recognised?.map (·.1)).getD (.unsupported (textBetween source tokens rest)), rest)

def insideStatement (t : Token) : Bool :=
  t.kind ≠ .semicolon && t.kind ≠ .eof

/-- What is left of the statement, as text. -/
def trailing (source : List Char) (tokens : List Token) : Option String × List Token :=
  let rest := tokens.dropWhile insideStatement
  match tokens.takeWhile insideStatement with
  | [] => (none, rest)
  | _ :: _ => (some (textBetween source tokens rest), rest)

def whereClause (source : List Char) (tokens : List Token) :
    Except ParseError (Reading (Option Predicate)) :=
  match skip? (.keyword .WHERE) tokens with
  | none => .ok (none, tokens)
  | some rest => do
    let (predicate, rest) ← condition source rest
    return (some predicate, rest)

def groupClause (tokens : List Token) : Except ParseError (Reading (Option ColumnRef)) :=
  match skip? (.keyword .GROUP) tokens with
  | none => .ok (none, tokens)
  | some rest => do
    let rest ← expect (.keyword .BY) rest
    let (column, rest) ← columnRef rest
    return (some column, rest)

/-- `SELECT`. Without a table nothing is read after the items. -/
def select (source : List Char) (tokens : List Token) : Except ParseError (Reading Statement) := do
  let rest ← expect (.keyword .SELECT) tokens
  let (items, rest) ← selectItems source rest
  match skip? (.keyword .FROM) rest with
  | none => return (.select ⟨items, none, none, none, none⟩, rest)
  | some rest =>
    let (table, rest) ← name rest
    let (condition?, rest) ← whereClause source (skipAlias rest)
    let (groupBy?, rest) ← groupClause rest
    let (trailing?, rest) := trailing source rest
    return (.select ⟨items, some table, condition?, groupBy?, trailing?⟩, rest)

/-- A statement without what may end it; its first token tells which. -/
def body (source : List Char) (tokens : List Token) : Except ParseError (Reading Statement) :=
  match tokens with
  | [] => .error .unexpectedEnd
  | t :: _ =>
    match t.kind with
    | .keyword .CREATE => createTable tokens
    | .keyword .DROP => dropTable tokens
    | .keyword .DELETE => delete tokens
    | .keyword .INSERT => insert source tokens
    | .keyword .SELECT => select source tokens
    | .eof => .error .unexpectedEnd
    | _ => .error (.unknownStatement (textBetween source tokens (tokens.drop (tokens.length - 1))))

/-- One statement, perhaps with a semicolon at its end, and nothing after it. -/
def statement (source : List Char) (tokens : List Token) : Except ParseError Statement := do
  let (statement, rest) ← body source tokens
  let _ ← expect .eof ((skip? .semicolon rest).getD rest)
  return statement

end Parser

def Statement.parse (text : String) : Except ParseError Statement :=
  match tokenize text with
  | .error e => .error (.lexer e)
  | .ok tokens => Parser.statement text.toList tokens

end SqlGrader
