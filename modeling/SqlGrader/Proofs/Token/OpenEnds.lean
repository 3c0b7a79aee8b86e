import SqlGrader.Proofs.Token.Numbers

/-!
# Texts that end too early

A text cannot be lexed exactly when it ends inside a quoted text or a block comment. Between quotes
a doubled quote stands for itself, so that what stays open is a text whose quotes are all doubled;
a block comment stays open if no sign that closes it follows the one that opens it. Main statement:
the errors of lexing and their places (`tokenize_eq_error_iff`).
-/

set_option autoImplicit false

namespace SqlGrader.Lexer

/-- What can be left open at the end of a text. -/
inductive Opening where
  | quote (sign : Char)
  | comment

namespace Opening

def named : Opening → String
  | quote sign => sign.toString
  | comment => "block comment"

/-- The error about what opens at a byte offset. -/
def error (position : Nat) : Opening → LexError
  | quote sign => .openQuote sign position
  | comment => .openComment position

theorem message_error (opening : Opening) (position : Nat) :
    (opening.error position).message = s!"Unterminated {opening.named} at position {position}" := by
  cases opening <;> rfl

theorem error_ne_malformedNumber (opening : Opening) (position : Nat) (text : String) :
    opening.error position ≠ .malformedNumber text := by
  cases opening <;> simp [error]

end Opening

/-- A text that opens a quoted text or a block comment and does not close it. -/
inductive Unclosed : Opening → List Char → Prop where
  | quote {sign : Char} {value : List Char} (isQuote : sign = '\'' ∨ sign = '"' ∨ sign = '\x60') :
      Unclosed (.quote sign) (sign :: doubled sign value)
  | comment {body : List Char} (inside : ¬ ['*', '/'] <:+: body) :
      Unclosed .comment ('/' :: '*' :: body)

/-- A text that is a row of spans up to what opens at a byte offset and is not closed. -/
def StaysOpen (text : List Char) (opening : Opening) (position : Nat) : Prop :=
  ∃ front last, text = textOf front ++ last ∧ Lexed last.head? front ∧ Unclosed opening last ∧
    position = Text.byteLength (textOf front)

/-! ## What is not closed -/

theorem closeQuote?_eq_none_iff {quote : Char} {cs : List Char} :
    closeQuote? quote cs = none ↔ ∃ value, cs = doubled quote value := by
  constructor
  · intro h
    fun_induction closeQuote? quote cs with
    | case1 => exact ⟨[], rfl⟩
    | case2 => cases h
    | case3 c different => exact ⟨[c], by simp [doubled_cons, different]⟩
    | case4 rest ih =>
      obtain ⟨value, rfl⟩ := ih (Option.map_eq_none_iff.1 h)
      exact ⟨quote :: value, by simp [doubled_cons]⟩
    | case5 => cases h
    | case6 c d rest different ih =>
      obtain ⟨value, same⟩ := ih (Option.map_eq_none_iff.1 h)
      exact ⟨c :: value, by simp [doubled_cons, different, same]⟩
  · rintro ⟨value, rfl⟩
    induction value with
    | nil => rfl
    | cons c value ih =>
      rw [doubled_cons]
      by_cases equal : c = quote
      · simp [equal, closeQuote?, ih]
      · rw [if_neg equal, List.singleton_append]
        cases tail : doubled quote value with
        | nil => simp [closeQuote?, equal]
        | cons d rest => rw [closeQuote?, if_neg equal, ← tail, ih, Option.map_none]

theorem closeComment?_eq_none_iff {cs : List Char} :
    closeComment? cs = none ↔ ¬ ['*', '/'] <:+: cs := by
  induction cs with
  | nil => simp [closeComment?]
  | cons c rest ih =>
    rw [close_infix_cons, not_or, ← ih]
    by_cases closes : c = '*' ∧ rest.head? = some '/'
    · obtain ⟨rfl, slash⟩ := closes
      obtain ⟨tail, rfl⟩ := List.head?_eq_some_iff.1 slash
      simp [closeComment?]
    · rw [closeComment?, Option.map_eq_none_iff]
      · exact (and_iff_right closes).symm
      · rintro tail star rfl
        exact closes ⟨star, rfl⟩

/-! ## Numbers -/

/-- A run of digits is a number, and so it is with a point in it or behind it. -/
theorem exists_numberKind? {c : Char} {rest : List Char} {d : Decimal} (digit : c.isDigit = true)
    (spells : Decimal.read? (c :: rest) = some d) :
    ∃ kind, numberKind? (c :: rest) = some kind := by
  have read : Binary64.read? (c :: rest) = some (.ofDecimal false d) := by
    rw [Binary64.read?_of_digit digit, spells, Option.map_some]
  unfold numberKind?
  rw [read]
  split
  · exact ⟨_, rfl⟩
  · cases Text.readInt64? (c :: rest) <;> exact ⟨_, rfl⟩

/-- What begins with a digit begins with a number. -/
theorem exists_numberLexeme {c : Char} (rest : List Char) (digit : c.isDigit = true) :
    ∃ lexeme, numberLexeme c rest = .ok lexeme := by
  have whole : ∀ d ∈ c :: rest.takeWhile Char.isDigit, d.isDigit = true := by
    intro d member
    rcases List.mem_cons.1 member with rfl | inside
    · exact digit
    · exact (Text.longest_front rest).1 d inside
  unfold numberLexeme
  split
  · rename_i tail point
    have places : Places (c :: (rest.takeWhile Char.isDigit ++ '.' :: tail.takeWhile Char.isDigit))
        (c :: rest.takeWhile Char.isDigit) (tail.takeWhile Char.isDigit) :=
      ⟨rfl, by simp, whole, (Text.longest_front tail).1⟩
    obtain ⟨kind, value⟩ := exists_numberKind? digit (Decimal.read?_places places)
    simp [value]
  · obtain ⟨kind, value⟩ := exists_numberKind? digit (Decimal.read?_digits (by simp) whole)
    simp [value]

/-! ## Errors -/

theorem quotedLexeme_eq_error_iff {position : Nat} {kind : String → TokenKind} {quote : Char}
    {rest : List Char} {e : LexError} :
    quotedLexeme position kind quote rest = .error e ↔
      (∃ value, rest = doubled quote value) ∧ e = .openQuote quote position := by
  rw [← closeQuote?_eq_none_iff]
  unfold quotedLexeme
  cases closeQuote? quote rest <;> simp [eq_comm]

/-- A step of the lexer fails exactly on what opens and is not closed. -/
theorem nextLexeme_eq_error_iff {position : Nat} {c : Char} {rest : List Char} {e : LexError} :
    nextLexeme position c rest = .error e ↔
      ∃ opening, Unclosed opening (c :: rest) ∧ e = opening.error position := by
  constructor
  · intro h
    unfold nextLexeme at h
    split at h
    · cases h
    split at h
    · cases h
    split at h
    · rename_i opens
      obtain ⟨rfl, star⟩ := opens
      obtain ⟨body, rfl⟩ := List.head?_eq_some_iff.1 star
      split at h
      · cases h
      · rename_i closes
        cases h
        exact ⟨.comment, .comment (closeComment?_eq_none_iff.1 closes), rfl⟩
    split at h
    · rename_i isQuote
      obtain ⟨⟨value, rfl⟩, rfl⟩ := quotedLexeme_eq_error_iff.1 h
      exact ⟨.quote c, .quote (.inl isQuote), rfl⟩
    split at h
    · rename_i isQuote
      obtain ⟨⟨value, rfl⟩, rfl⟩ := quotedLexeme_eq_error_iff.1 h
      exact ⟨.quote c, .quote (.inr isQuote), rfl⟩
    split at h
    · rename_i digit
      obtain ⟨lexeme, number⟩ := exists_numberLexeme rest digit
      rw [number] at h
      cases h
    split at h <;> cases h
  · rintro ⟨opening, unclosed, rfl⟩
    cases unclosed with
    | @quote _ value isQuote =>
      have failed : ∀ kind, quotedLexeme position kind c (doubled c value) =
          .error (.openQuote c position) :=
        fun kind => quotedLexeme_eq_error_iff.2 ⟨⟨value, rfl⟩, rfl⟩
      have notWhite : Unicode.isWhiteSpace '\'' = false ∧ Unicode.isWhiteSpace '"' = false ∧
        Unicode.isWhiteSpace '\x60' = false := by decide
      rcases isQuote with rfl | rfl | rfl <;> simp [nextLexeme, notWhite, failed, Opening.error]
    | @comment body inside =>
      have notWhite : Unicode.isWhiteSpace '/' = false := by decide
      simp [nextLexeme, notWhite, closeComment?_eq_none_iff.2 inside, Opening.error]

/-- Lexing fails in the first step or behind what it takes off. -/
theorem tokensFrom_cons_eq_error_iff {position : Nat} {c : Char} {rest : List Char}
    {e : LexError} :
    tokensFrom position (c :: rest) = .error e ↔
      nextLexeme position c rest = .error e ∨
        ∃ lexeme, nextLexeme position c rest = .ok lexeme ∧
          tokensFrom (position + lexeme.width) lexeme.rest = .error e := by
  rw [tokensFrom]
  constructor
  · intro h
    split at h
    · rename_i failed
      cases h
      exact .inl failed
    · rename_i lexeme step
      split at h
      · rename_i failed
        cases h
        exact .inr ⟨lexeme, step, failed⟩
      · split at h <;> cases h
  · rintro (failed | ⟨lexeme, step, failed⟩)
    · split
      · rename_i other
        rw [failed] at other
        cases other
        rfl
      · rename_i other
        rw [failed] at other
        cases other
    · split
      · rename_i other
        rw [step] at other
        cases other
      · rename_i taken takes
        obtain rfl : lexeme = taken := by simpa [step] using takes
        rw [failed]

/-- Lexing fails exactly on a row of spans with something behind it that is not closed. -/
theorem tokensFrom_eq_error_iff {position : Nat} {cs : List Char} {e : LexError} :
    tokensFrom position cs = .error e ↔
      ∃ opening distance, StaysOpen cs opening distance ∧
        e = opening.error (position + distance) := by
  constructor
  · intro h
    induction size : cs.length using Nat.strongRecOn generalizing position cs with
    | ind size ih =>
      cases cs with
      | nil =>
        rw [tokensFrom] at h
        cases h
      | cons c rest =>
        rcases tokensFrom_cons_eq_error_iff.1 h with failed | ⟨lexeme, step, failed⟩
        · obtain ⟨opening, unclosed, rfl⟩ := nextLexeme_eq_error_iff.1 failed
          exact ⟨opening, 0, ⟨[], c :: rest, rfl, trivial, unclosed, rfl⟩, rfl⟩
        · have shorter := rest_length_of_nextLexeme step
          obtain ⟨opening, _, ⟨front, last, behind, lexed, unclosed, rfl⟩, rfl⟩ :=
            ih _ (by simp only [List.length_cons] at size; omega) failed rfl
          obtain ⟨text, whole, width, reads⟩ := nextLexeme_eq_ok_iff.1 step
          rw [behind, List.head?_append] at reads
          refine ⟨opening, _, ⟨⟨text, lexeme.kind?⟩ :: front, last, ?_, ⟨reads, lexed⟩, unclosed,
            rfl⟩, ?_⟩
          · rw [whole, behind, textOf_cons, List.append_assoc]
          · rw [textOf_cons, Text.byteLength_append, width, Nat.add_assoc]
  · rintro ⟨opening, _, ⟨front, last, rfl, lexed, unclosed, rfl⟩, rfl⟩
    induction front generalizing position with
    | nil =>
      cases last with
      | nil => cases unclosed
      | cons c rest =>
        refine tokensFrom_cons_eq_error_iff.2 (.inl ?_)
        exact nextLexeme_eq_error_iff.2 ⟨opening, unclosed, rfl⟩
    | cons span front ih =>
      obtain ⟨reads, later⟩ := lexed
      obtain ⟨text, kind?⟩ := span
      rw [← List.head?_append] at reads
      cases text with
      | nil => exact absurd rfl reads.text_ne_nil
      | cons c text =>
        have step := nextLexeme_of_reads position reads
        have behind := @ih (position + Text.byteLength (c :: text)) later
        rw [textOf_cons, List.append_assoc, List.cons_append, Text.byteLength_append,
          ← Nat.add_assoc]
        exact tokensFrom_cons_eq_error_iff.2 (.inr ⟨_, step, behind⟩)

/-- A text cannot be lexed exactly when it ends inside what it opens, and the error tells where
that opens. -/
theorem tokenize_eq_error_iff {text : String} {e : LexError} :
    tokenize text = .error e ↔
      ∃ opening position, StaysOpen text.toList opening position ∧ e = opening.error position := by
  rw [tokenize, tokensFrom_eq_error_iff]
  simp only [Nat.zero_add]

end SqlGrader.Lexer
