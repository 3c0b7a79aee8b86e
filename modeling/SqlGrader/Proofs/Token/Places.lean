import SqlGrader.Proofs.Token.OpenEnds
import SqlGrader.Proofs.Token.Trimming

/-!
# The places of tokens

Every token stands where its first character does, the tokens stand one behind the other, and the
end of the text stands behind them all. Main statement: what comes of lexing a text, an error at an
open end or tokens laid out in this way (`tokenize_outcome`).
-/

set_option autoImplicit false

namespace SqlGrader

namespace Text

theorem byteLength_ofList (cs : List Char) : byteLength cs = (String.ofList cs).utf8ByteSize := by
  induction cs with
  | nil => rfl
  | cons c rest ih =>
    rw [byteLength, ih, ← String.utf8ByteSize_singleton, ← String.utf8ByteSize_append,
      String.singleton_eq_ofList, ← String.ofList_append]
    rfl

theorem byteLength_toList (text : String) : byteLength text.toList = text.utf8ByteSize := by
  rw [byteLength_ofList, String.ofList_toList]

theorem byteLength_pos {cs : List Char} (nonempty : cs ≠ []) : 0 < byteLength cs := by
  cases cs with
  | nil => exact absurd rfl nonempty
  | cons c rest =>
    have positive := Char.utf8Size_pos c
    simp only [byteLength]
    omega

end Text

namespace Lexer

theorem le_position {position : Nat} {spans : List Span} {t : Token}
    (member : t ∈ tokensOf position spans) : position ≤ t.position := by
  induction spans generalizing position with
  | nil =>
    obtain rfl := List.mem_singleton.1 member
    exact Nat.le_refl _
  | cons span rest ih =>
    rcases List.mem_append.1 member with first | later
    · obtain ⟨kind, -, rfl⟩ := Option.map_eq_some_iff.1 (Option.mem_toList.1 first)
      exact Nat.le_refl _
    · exact Nat.le_trans (Nat.le_add_right _ _) (ih later)

/-- No two tokens stand at one place, since no span is empty. -/
theorem Lexed.pairwise {next? : Option Char} {spans : List Span} (h : Lexed next? spans)
    (position : Nat) : (tokensOf position spans).Pairwise fun t u => t.position < u.position := by
  induction spans generalizing position with
  | nil => exact List.pairwise_singleton _ _
  | cons span rest ih =>
    obtain ⟨reads, later⟩ := h
    rw [tokensOf]
    cases span.kind? with
    | none => exact ih later _
    | some kind =>
      refine List.pairwise_cons.2 ⟨fun t member => ?_, ih later _⟩
      have behind := le_position member
      have positive := Text.byteLength_pos reads.text_ne_nil
      simp only
      omega

theorem tokensOf_ne_nil (position : Nat) (spans : List Span) : tokensOf position spans ≠ [] := by
  intro empty
  have kinds := map_kind_tokensOf position spans
  simp [empty] at kinds

/-- The tokens of spans that stand behind others. -/
theorem tokensOf_append (position : Nat) (spans others : List Span) :
    tokensOf position (spans ++ others) = (tokensOf position spans).dropLast ++
      tokensOf (position + Text.byteLength (textOf spans)) others := by
  induction spans generalizing position with
  | nil => simp [tokensOf, Text.byteLength]
  | cons span rest ih =>
    rw [List.cons_append, tokensOf, ih, tokensOf,
      List.dropLast_append_of_ne_nil (tokensOf_ne_nil _ rest), textOf_cons,
      Text.byteLength_append, Nat.add_assoc, List.append_assoc]

/-- The end of the text is the last token. -/
theorem tokensOf_eq_append (position : Nat) (spans : List Span) :
    tokensOf position spans = (tokensOf position spans).dropLast ++
      [⟨.eof, position + Text.byteLength (textOf spans)⟩] := by
  have whole := tokensOf_append position spans []
  rwa [List.append_nil] at whole

theorem Lexed.eof_notMem {next? : Option Char} {spans : List Span} (h : Lexed next? spans)
    {position : Nat} {t : Token} (member : t ∈ (tokensOf position spans).dropLast) :
    t.kind ≠ .eof := by
  intro isEnd
  have kinds := map_kind_tokensOf position spans
  rw [tokensOf_eq_append, List.map_append] at kinds
  have front := List.append_cancel_right (kinds : _ ++ [TokenKind.eof] = _)
  exact eof_notMem_kindsOf h (front ▸ isEnd ▸ List.mem_map_of_mem member)

/-- A token other than the end of the text stands where the span begins that makes it. -/
theorem exists_span_of_mem {position : Nat} {spans : List Span} {t : Token}
    (member : t ∈ tokensOf position spans) (inside : t.kind ≠ .eof) :
    ∃ before span after, spans = before ++ span :: after ∧ span.kind? = some t.kind ∧
      t.position = position + Text.byteLength (textOf before) := by
  induction spans generalizing position with
  | nil =>
    obtain rfl := List.mem_singleton.1 member
    exact absurd rfl inside
  | cons span rest ih =>
    rcases List.mem_append.1 member with first | later
    · obtain ⟨kind, made, rfl⟩ := Option.map_eq_some_iff.1 (Option.mem_toList.1 first)
      exact ⟨[], span, rest, rfl, made, rfl⟩
    · obtain ⟨before, other, after, rfl, made, place⟩ := ih later
      refine ⟨span :: before, other, after, rfl, made, ?_⟩
      rw [place, textOf_cons, Text.byteLength_append, Nat.add_assoc]

/-- What makes a token has no white space at its ends. -/
theorem Reads.solid {next? : Option Char} {text : List Char} {kind : TokenKind}
    (h : Reads next? text (some kind)) : Solid text := by
  rcases h.shape with ⟨c, -, -, none?⟩ | ⟨body, -, -, none?, -⟩ | solid
  · cases none?
  · cases none?
  · exact solid

/-- A character that is no white space stands at a byte offset of a text. -/
def VisibleAt (text : List Char) (position : Nat) : Prop :=
  ∃ before c after, text = before ++ c :: after ∧ position = Text.byteLength before ∧
    Unicode.isWhiteSpace c = false

theorem Lexed.visibleAt {spans : List Span} (h : Lexed none spans) {t : Token}
    (member : t ∈ tokensOf 0 spans) (inside : t.kind ≠ .eof) :
    VisibleAt (textOf spans) t.position := by
  obtain ⟨before, span, after, rfl, made, place⟩ := exists_span_of_mem member inside
  obtain ⟨-, reads, -⟩ := lexed_append.1 h
  rw [made] at reads
  obtain ⟨c, head, notWhite⟩ := reads.solid.first
  obtain ⟨text, whole⟩ := List.head?_eq_some_iff.1 head
  refine ⟨textOf before, c, text ++ textOf after, ?_, by rw [place, Nat.zero_add], notWhite⟩
  rw [textOf_append, textOf_cons, whole, List.cons_append]

/-- The tokens of a text: one behind the other, each at a character that is no white space, and
the end of the text behind them. -/
structure LaidOut (text : String) (tokens : List Token) : Prop where
  increasing : tokens.Pairwise fun t u => t.position < u.position
  ends : ∃ front, tokens = front ++ [⟨.eof, text.utf8ByteSize⟩] ∧ ∀ t ∈ front, t.kind ≠ .eof
  visible : ∀ t ∈ tokens, t.kind ≠ .eof → VisibleAt text.toList t.position
  nonneg : ∀ t ∈ tokens, ∀ i, t.kind = .integer i → 0 ≤ i.toInt

theorem laidOut_of_tokenize {text : String} {tokens : List Token}
    (lexes : tokenize text = .ok tokens) : LaidOut text tokens := by
  obtain ⟨spans, whole, lexed, rfl⟩ := tokenize_eq_ok_iff.1 lexes
  refine ⟨lexed.pairwise 0, ⟨(tokensOf 0 spans).dropLast, ?_, fun t => lexed.eof_notMem⟩, ?_, ?_⟩
  · rw [← Text.byteLength_toList, ← whole, ← Nat.zero_add (Text.byteLength _)]
    exact tokensOf_eq_append 0 spans
  · exact whole ▸ fun t => lexed.visibleAt
  · rintro t member i isInteger
    have inside : t.kind ≠ .eof := by simp [isInteger]
    obtain ⟨before, span, after, rfl, made, -⟩ := exists_span_of_mem member inside
    obtain ⟨next?, reads⟩ := lexed.exists_reads (List.mem_append_right before List.mem_cons_self)
    rw [made, isInteger] at reads
    obtain ⟨c, rest, -, digit, value⟩ := reads.numberKind?_eq (.integer i)
    exact nonneg_of_readInt64? digit (readInt64?_of_numberKind? value)

/-- Lexing fails exactly on a text that ends inside a quoted text or a block comment, with the byte
offset at which that opens in the message, and never over a number. Any other text is cut into
tokens that are laid out in it. -/
theorem tokenize_outcome (text : String) :
    (∀ e, tokenize text = .error e ↔
      ∃ opening position, StaysOpen text.toList opening position ∧ e = opening.error position ∧
        e.message = s!"Unterminated {opening.named} at position {position}") ∧
      (∀ digits, tokenize text ≠ .error (.malformedNumber digits)) ∧
      ∀ tokens, tokenize text = .ok tokens → LaidOut text tokens := by
  refine ⟨fun e => ?_, fun digits failed => ?_, fun tokens => laidOut_of_tokenize⟩
  · rw [tokenize_eq_error_iff]
    constructor
    · rintro ⟨opening, position, opens, rfl⟩
      exact ⟨opening, position, opens, rfl, opening.message_error position⟩
    · rintro ⟨opening, position, opens, rfl, -⟩
      exact ⟨opening, position, opens, rfl⟩
  · obtain ⟨opening, position, -, same⟩ := tokenize_eq_error_iff.1 failed
    exact opening.error_ne_malformedNumber position digits same.symm

/-- A quote stays open behind a doubled one and a comment that begins with `/*/`, and a number ends
with its point in front of a comment. -/
theorem tokenize_outcome_quotes :
    (∃ opening, StaysOpen "'é''' /*/ */ \x60a\x60\x60".toList opening 14) ∧
      ∃ tokens, tokenize "'é''' /*/ */ 12.-- x" = .ok tokens ∧
        LaidOut "'é''' /*/ */ 12.-- x" tokens := by
  have failed : tokenize "'é''' /*/ */ \x60a\x60\x60" = .error (.openQuote '\x60' 14) := by
    decide +kernel
  have lexes : tokenize "'é''' /*/ */ 12.-- x" = .ok
      [⟨.string "é'", 0⟩, ⟨.float (.ofInt64 12), 14⟩, ⟨.eof, 21⟩] := by
    decide +kernel
  obtain ⟨opening, position, opens, same, -⟩ := ((tokenize_outcome _).1 _).1 failed
  have place : position = 14 := by
    cases opening <;> cases same
    rfl
  exact ⟨⟨opening, place ▸ opens⟩, _, lexes, (tokenize_outcome _).2.2 _ lexes⟩

end Lexer

end SqlGrader
