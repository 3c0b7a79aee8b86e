import SqlGrader.Proofs.Token.Trimming

/-!
# Joined texts

Two texts with white space between them make the tokens of the first and then those of the second.
With a line feed between them that needs nothing; with a space it needs that no comment of a line
is open at the end of the first text. Main statements: `LexesTo.newline`, `LexesTo.space`.
-/

set_option autoImplicit false

namespace SqlGrader.Lexer

/-- A text that makes tokens of the given kinds. -/
def LexesTo (text : List Char) (kinds : List TokenKind) : Prop :=
  ∃ spans, textOf spans = text ∧ Lexed none spans ∧ kindsOf spans = kinds

/-- A text that can be lexed makes the kinds of its tokens, and the end of the text behind them. -/
theorem exists_lexesTo {text : String} {tokens : List Token} (lexes : tokenize text = .ok tokens) :
    ∃ kinds, LexesTo text.toList kinds ∧ tokens.map (·.kind) = kinds ++ [.eof] := by
  obtain ⟨spans, whole, lexed, rfl⟩ := tokenize_eq_ok_iff.1 lexes
  exact ⟨_, ⟨spans, whole, lexed, rfl⟩, map_kind_tokensOf 0 spans⟩

/-- A given text can be lexed to see what it makes. -/
theorem lexesTo_of_toOption {text : String} {kinds : List TokenKind}
    (h : (tokenize text).toOption.map (·.map (·.kind)) = some (kinds ++ [.eof])) :
    LexesTo text.toList kinds := by
  obtain ⟨tokens, lexes, same⟩ := Option.map_eq_some_iff.1 h
  obtain ⟨found, lexesTo, whole⟩ := exists_lexesTo (tokenize_of_toOption lexes)
  exact List.append_cancel_right (whole.symm.trans same) ▸ lexesTo

/-- The end of the text is no token of its own. -/
theorem LexesTo.eof_notMem {text : List Char} {kinds : List TokenKind} (h : LexesTo text kinds) :
    .eof ∉ kinds := by
  obtain ⟨spans, -, lexed, rfl⟩ := h
  exact eof_notMem_kindsOf lexed

/-- Spans with one of white space between them. -/
theorem lexesTo_between {front later : List Span} {c : Char}
    (white : Unicode.isWhiteSpace c = true) (lexed : Lexed (some c) front)
    (lexedLater : Lexed none later) :
    LexesTo (textOf front ++ c :: textOf later) (kindsOf front ++ kindsOf later) := by
  refine ⟨front ++ ⟨[c], none⟩ :: later, by simp, ?_, ?_⟩
  · exact lexed_append.2 ⟨by simpa using lexed, .whiteSpace white, lexedLater⟩
  · simp [kindsOf_cons]

/-- A line feed ends whatever stands in front of it. -/
theorem LexesTo.newline {text later : List Char} {kinds others : List TokenKind}
    (h : LexesTo text kinds) (behind : LexesTo later others) :
    LexesTo (text ++ '\n' :: later) (kinds ++ others) := by
  obtain ⟨spans, rfl, lexed, rfl⟩ := h
  obtain ⟨more, rfl, lexedMore, rfl⟩ := behind
  exact lexesTo_between (by decide) (lexed.blank (.inr rfl)) lexedMore

/-- A space behind a span ends it, unless it goes into a comment. -/
theorem Reads.space {text : List Char} {kind? : Option TokenKind} (h : Reads none text kind?)
    (noDash : '-' ∉ text) : Reads (some ' ') text kind? := by
  cases h with
  | whiteSpace white => exact .whiteSpace white
  | lineComment => exact absurd List.mem_cons_self noDash
  | blockComment inside => exact .blockComment inside
  | string => exact .string (by simp)
  | identifier sign =>
    refine .identifier sign ?_
    obtain rfl | rfl := sign <;> simp
  | whole first inside stop value =>
    refine .whole first inside (fun d next => ?_) value
    cases next
    decide
  | fraction first inside behind stop value =>
    refine .fraction first inside behind (fun d next => ?_) value
    cases next
    decide
  | word first inside =>
    refine .word first inside fun d next => ?_
    cases next
    decide
  | sign notWhite notQuote notDigit notWord =>
    exact .sign notWhite notQuote notDigit notWord (by simp) (by simp)

theorem Lexed.space {spans : List Span} (h : Lexed none spans) (noDash : '-' ∉ textOf spans) :
    Lexed (some ' ') spans := by
  induction spans with
  | nil => trivial
  | cons span rest ih =>
    obtain ⟨reads, later⟩ := h
    rw [textOf_cons, List.mem_append, not_or] at noDash
    refine ⟨?_, ih later noDash.2⟩
    cases head : (textOf rest).head? with
    | none =>
      rw [head] at reads
      exact reads.space noDash.1
    | some c => simpa [head] using reads

/-- A space ends what stands in front of it, if that has no comment of a line. -/
theorem LexesTo.space {text later : List Char} {kinds others : List TokenKind}
    (h : LexesTo text kinds) (noDash : '-' ∉ text) (behind : LexesTo later others) :
    LexesTo (text ++ ' ' :: later) (kinds ++ others) := by
  obtain ⟨spans, rfl, lexed, rfl⟩ := h
  obtain ⟨more, rfl, lexedMore, rfl⟩ := behind
  exact lexesTo_between (by decide) (lexed.space noDash) lexedMore

end SqlGrader.Lexer
