import SqlGrader.Token
import SqlGrader.Text.Bytes
import SqlGrader.Unicode.Alphabetic

/-!
# Lexing

A text is cut into tokens from left to right; white space and comments stand between tokens
and are dropped. Main statement: a step of the lexer leaves a shorter text
(`rest_length_of_nextLexeme`), by which lexing ends.

Source: `next_token` with `skip_block_comment`, `read_quoted` and `read_number`.
-/

set_option autoImplicit false

namespace SqlGrader

inductive LexError where
  | openComment (position : Nat)
  | openQuote (quote : Char) (position : Nat)
  | malformedNumber (text : String)
  deriving DecidableEq

namespace LexError

def message : LexError → String
  | openComment position => s!"Unterminated block comment at position {position}"
  | openQuote quote position => s!"Unterminated {quote} at position {position}"
  | malformedNumber text => s!"Invalid number literal: {text}"

end LexError

namespace Lexer

/-- What stands at the front of a text: a token, or `none` for a character of white space or a
comment. It takes up `width` bytes. -/
structure Lexeme where
  kind? : Option TokenKind
  width : Nat
  rest : List Char

def beginsWord (c : Char) : Bool :=
  Unicode.isAlphabetic c || c = '_'

def continuesWord (c : Char) : Bool :=
  Unicode.isAlphanumeric c || c = '_'

/-- The width in bytes up to the end of a block comment, and what follows it. -/
def closeComment? : List Char → Option (Nat × List Char)
  | [] => none
  | c :: rest =>
    match c, rest with
    | '*', '/' :: rest => some (2, rest)
    | _, _ => (closeComment? rest).map fun (width, rest) => (c.utf8Size + width, rest)

/-- The text up to the closing quote, its width in bytes with that quote, and what follows. A
doubled quote stands for itself. -/
def closeQuote? (quote : Char) : List Char → Option (List Char × Nat × List Char)
  | [] => none
  | [c] => if c = quote then some ([], c.utf8Size, []) else none
  | c :: d :: rest =>
    if c = quote then
      if d = quote then
        (closeQuote? quote rest).map fun (value, width, rest) =>
          (quote :: value, c.utf8Size + d.utf8Size + width, rest)
      else some ([], c.utf8Size, d :: rest)
    else
      (closeQuote? quote (d :: rest)).map fun (value, width, rest) =>
        (c :: value, c.utf8Size + width, rest)

/-- The number that a run of digits, perhaps with a point in it, stands for. Integers beyond 64
bits become floating-point numbers. -/
def numberKind? (text : List Char) : Option TokenKind :=
  if text.contains '.' then (Binary64.read? text).map .float
  else ((Text.readInt64? text).map .integer).or ((Binary64.read? text).map .float)

/-- A number that begins with the digit `c`. -/
def numberLexeme (c : Char) (rest : List Char) : Except LexError Lexeme :=
  let whole := c :: rest.takeWhile Char.isDigit
  let (text, rest) := match rest.dropWhile Char.isDigit with
    | '.' :: rest => (whole ++ '.' :: rest.takeWhile Char.isDigit, rest.dropWhile Char.isDigit)
    | rest => (whole, rest)
  match numberKind? text with
  | some kind => .ok ⟨some kind, Text.byteLength text, rest⟩
  | none => .error (.malformedNumber (String.ofList text))

def wordLexeme (c : Char) (rest : List Char) : Lexeme :=
  let word := c :: rest.takeWhile continuesWord
  let kind := match Keyword.ofWord? word with
    | some keyword => .keyword keyword
    | none => .identifier (String.ofList word)
  ⟨some kind, Text.byteLength word, rest.dropWhile continuesWord⟩

/-- A text between quotes; `kind` says what it is. -/
def quotedLexeme (position : Nat) (kind : String → TokenKind) (quote : Char) (rest : List Char) :
    Except LexError Lexeme :=
  match closeQuote? quote rest with
  | some (value, width, rest) =>
    .ok ⟨some (kind (String.ofList value)), quote.utf8Size + width, rest⟩
  | none => .error (.openQuote quote position)

/-- The token of a sign of one character. -/
def signKind? : Char → Option TokenKind
  | ',' => some .comma
  | '.' => some .dot
  | ';' => some .semicolon
  | '(' => some .leftParen
  | ')' => some .rightParen
  | '+' => some .plus
  | '-' => some .minus
  | '*' => some .star
  | '=' => some .equal
  | '>' => some .greater
  | _ => none

/-- What stands at the front of the text `c :: rest` at a byte offset. -/
def nextLexeme (position : Nat) (c : Char) (rest : List Char) : Except LexError Lexeme :=
  if Unicode.isWhiteSpace c then .ok ⟨none, c.utf8Size, rest⟩
  else if c = '-' ∧ rest.head? = some '-' then
    let comment := rest.takeWhile (· != '\n')
    .ok ⟨none, c.utf8Size + Text.byteLength comment, rest.dropWhile (· != '\n')⟩
  else if c = '/' ∧ rest.head? = some '*' then
    match closeComment? (rest.drop 1) with
    | some (width, rest) => .ok ⟨none, 2 + width, rest⟩
    | none => .error (.openComment position)
  else if c = '\'' then quotedLexeme position .string c rest
  else if c = '"' ∨ c = '\x60' then quotedLexeme position .identifier c rest
  else if c.isDigit then numberLexeme c rest
  else if beginsWord c then .ok (wordLexeme c rest)
  else .ok ⟨some ((signKind? c).getD (.symbol c)), c.utf8Size, rest⟩

theorem length_dropWhile_le {α : Type} (p : α → Bool) (xs : List α) :
    (xs.dropWhile p).length ≤ xs.length :=
  (List.dropWhile_sublist p).length_le

theorem rest_length_of_closeComment? {cs : List Char} {width : Nat} {rest : List Char}
    (h : closeComment? cs = some (width, rest)) : rest.length ≤ cs.length := by
  induction cs generalizing width rest with
  | nil => cases h
  | cons c cs ih =>
    unfold closeComment? at h
    split at h
    · cases h
      simp only [List.length_cons]
      omega
    · obtain ⟨⟨w, r⟩, hr, heq⟩ := Option.map_eq_some_iff.1 h
      cases heq
      exact Nat.le_succ_of_le (ih hr)

theorem rest_length_of_closeQuote? {quote : Char} {cs : List Char} {value : List Char} {width : Nat}
    {rest : List Char} (h : closeQuote? quote cs = some (value, width, rest)) :
    rest.length ≤ cs.length := by
  fun_induction closeQuote? quote cs generalizing value width rest with
  | case1 => cases h
  | case2 => cases h; simp
  | case3 => cases h
  | case4 rest ih =>
    obtain ⟨⟨v, w, r⟩, hr, heq⟩ := Option.map_eq_some_iff.1 h
    cases heq
    have := ih hr
    simp only [List.length_cons]
    omega
  | case5 => cases h; simp
  | case6 c d cs hc ih =>
    obtain ⟨⟨v, w, r⟩, hr, heq⟩ := Option.map_eq_some_iff.1 h
    cases heq
    have := ih hr
    simp only [List.length_cons] at this ⊢
    omega

theorem rest_length_of_quotedLexeme {position : Nat} {kind : String → TokenKind} {quote : Char}
    {rest : List Char} {lexeme : Lexeme}
    (h : quotedLexeme position kind quote rest = .ok lexeme) :
    lexeme.rest.length ≤ rest.length := by
  unfold quotedLexeme at h
  split at h
  · rename_i hclose
    cases h
    exact rest_length_of_closeQuote? hclose
  · cases h

theorem rest_length_of_numberLexeme {c : Char} {rest : List Char} {lexeme : Lexeme}
    (h : numberLexeme c rest = .ok lexeme) : lexeme.rest.length ≤ rest.length := by
  have hdrop := length_dropWhile_le Char.isDigit rest
  unfold numberLexeme at h
  cases hrest : rest.dropWhile Char.isDigit with
  | nil =>
    simp only [hrest] at h
    split at h <;> cases h
    simp
  | cons d ds =>
    rw [hrest, List.length_cons] at hdrop
    have hds := length_dropWhile_le Char.isDigit ds
    by_cases hd : d = '.'
    · subst hd
      simp only [hrest] at h
      split at h <;> cases h
      simp only
      omega
    · simp only [hrest] at h
      split at h
      · cases h
        split
        · rename_i heq
          cases heq
          exact absurd rfl hd
        · simp only [List.length_cons]
          omega
      · cases h

/-- A step of the lexer leaves no more than what followed the first character. -/
theorem rest_length_of_nextLexeme {position : Nat} {c : Char} {rest : List Char} {lexeme : Lexeme}
    (h : nextLexeme position c rest = .ok lexeme) : lexeme.rest.length ≤ rest.length := by
  unfold nextLexeme at h
  split at h
  · cases h; exact Nat.le_refl _
  split at h
  · cases h; exact length_dropWhile_le _ _
  split at h
  · split at h
    · rename_i hclose
      cases h
      have := rest_length_of_closeComment? hclose
      simp only [List.length_drop] at this
      simp only
      omega
    · cases h
  split at h
  · exact rest_length_of_quotedLexeme h
  split at h
  · exact rest_length_of_quotedLexeme h
  split at h
  · exact rest_length_of_numberLexeme h
  split at h
  · cases h; exact length_dropWhile_le _ _
  · cases h; exact Nat.le_refl _

/-- The tokens of a text that stands at a byte offset, with the end of the text last. -/
def tokensFrom (position : Nat) : List Char → Except LexError (List Token)
  | [] => .ok [⟨.eof, position⟩]
  | c :: rest =>
    match h : nextLexeme position c rest with
    | .error e => .error e
    | .ok lexeme =>
      have : lexeme.rest.length ≤ rest.length := rest_length_of_nextLexeme h
      match tokensFrom (position + lexeme.width) lexeme.rest with
      | .error e => .error e
      | .ok tokens =>
        match lexeme.kind? with
        | some kind => .ok (⟨kind, position⟩ :: tokens)
        | none => .ok tokens
termination_by cs => cs.length

end Lexer

/-- The tokens of a text. The last one is always the end of the text. -/
def tokenize (text : String) : Except LexError (List Token) :=
  Lexer.tokensFrom 0 text.toList

end SqlGrader
