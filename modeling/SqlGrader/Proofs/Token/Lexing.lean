import SqlGrader.Proofs.Token.Span

/-!
# Rows of spans

A text lexes when it is a row of spans, each of which reads in front of what follows it. Main
statement: the tokens of a text are those of its spans (`tokensFrom_eq_ok_iff`), so that the
kinds of the tokens do not depend on where the text stands.
-/

set_option autoImplicit false

namespace SqlGrader.Lexer

/-- A part of a text with the token that it makes, if it makes one. -/
structure Span where
  text : List Char
  kind? : Option TokenKind

def textOf (spans : List Span) : List Char :=
  spans.flatMap (·.text)

def kindsOf (spans : List Span) : List TokenKind :=
  spans.filterMap (·.kind?)

/-- The tokens that spans make from a byte offset on, with the end of the text last. -/
def tokensOf (position : Nat) : List Span → List Token
  | [] => [⟨.eof, position⟩]
  | span :: rest =>
    (span.kind?.map (⟨·, position⟩)).toList ++ tokensOf (position + Text.byteLength span.text) rest

/-- Each span reads in front of the next one, and the last one in front of `next?`. -/
def Lexed (next? : Option Char) : List Span → Prop
  | [] => True
  | span :: rest => Reads ((textOf rest).head?.or next?) span.text span.kind? ∧ Lexed next? rest

@[simp] theorem textOf_nil : textOf [] = [] := rfl

@[simp] theorem textOf_cons (span : Span) (rest : List Span) :
    textOf (span :: rest) = span.text ++ textOf rest := rfl

@[simp] theorem textOf_append (spans others : List Span) :
    textOf (spans ++ others) = textOf spans ++ textOf others := by
  simp [textOf]

@[simp] theorem kindsOf_nil : kindsOf [] = [] := rfl

@[simp] theorem kindsOf_append (spans others : List Span) :
    kindsOf (spans ++ others) = kindsOf spans ++ kindsOf others := by
  simp [kindsOf]

theorem kindsOf_cons (span : Span) (rest : List Span) :
    kindsOf (span :: rest) = span.kind?.toList ++ kindsOf rest := by
  cases h : span.kind? <;> simp [kindsOf, h]

/-- The kinds of the tokens do not depend on where the text stands. -/
theorem map_kind_tokensOf (position : Nat) (spans : List Span) :
    (tokensOf position spans).map (·.kind) = kindsOf spans ++ [.eof] := by
  induction spans generalizing position with
  | nil => rfl
  | cons span rest ih =>
    rw [tokensOf, List.map_append, ih, kindsOf_cons, List.append_assoc]
    cases span.kind? <;> rfl

theorem lexed_append {next? : Option Char} {spans others : List Span} :
    Lexed next? (spans ++ others) ↔
      Lexed ((textOf others).head?.or next?) spans ∧ Lexed next? others := by
  induction spans with
  | nil => simp [Lexed]
  | cons span rest ih =>
    simp only [List.cons_append, Lexed, ih, textOf_append, List.head?_append, Option.or_assoc,
      and_assoc]

theorem Reads.text_ne_nil {next? : Option Char} {text : List Char} {kind? : Option TokenKind}
    (h : Reads next? text kind?) : text ≠ [] := by
  cases h <;> simp

theorem number_of_numberKind? {text : List Char} {kind : TokenKind}
    (h : numberKind? text = some kind) : (∃ i, kind = .integer i) ∨ ∃ x, kind = .float x := by
  have value : (∃ i, TokenKind.integer i = kind) ∨ ∃ x, TokenKind.float x = kind := by
    unfold numberKind? at h
    split at h
    · obtain ⟨x, -, rfl⟩ := Option.map_eq_some_iff.1 h
      exact .inr ⟨x, rfl⟩
    · cases whole : Text.readInt64? text with
      | some i =>
        rw [whole] at h
        cases h
        exact .inl ⟨i, rfl⟩
      | none =>
        rw [whole, Option.map_none, Option.none_or] at h
        obtain ⟨x, -, rfl⟩ := Option.map_eq_some_iff.1 h
        exact .inr ⟨x, rfl⟩
  simpa [eq_comm] using value

/-- A semicolon or the end of a text could only be a sign. -/
theorem Reads.sign_of_ending {next? : Option Char} {text : List Char} {kind : TokenKind}
    (h : Reads next? text (some kind)) (ending : kind = .semicolon ∨ kind = .eof) :
    ∃ c, text = [c] ∧ (signKind? c).getD (.symbol c) = kind := by
  cases h with
  | string stop => simp at ending
  | identifier sign stop => simp at ending
  | whole first inside stop value =>
    rcases number_of_numberKind? value with ⟨i, rfl⟩ | ⟨x, rfl⟩ <;> simp at ending
  | fraction first inside behind stop value =>
    rcases number_of_numberKind? value with ⟨i, rfl⟩ | ⟨x, rfl⟩ <;> simp at ending
  | @word c letters =>
    unfold wordKind at ending
    cases keyword : Keyword.ofWord? (c :: letters) <;> simp [keyword] at ending
  | @sign c => exact ⟨c, rfl, rfl⟩

/-- No span makes the token of the end of the text. -/
theorem Reads.kind_ne_eof {next? : Option Char} {text : List Char} {kind? : Option TokenKind}
    (h : Reads next? text kind?) : kind? ≠ some .eof := by
  rintro rfl
  obtain ⟨c, -, isEnd⟩ := h.sign_of_ending (.inr rfl)
  unfold signKind? at isEnd
  split at isEnd <;> cases isEnd

/-- The token of a semicolon is spelled by nothing else. -/
theorem Reads.eq_semicolon {next? : Option Char} {text : List Char}
    (h : Reads next? text (some .semicolon)) : text = [';'] := by
  obtain ⟨c, rfl, isSemicolon⟩ := h.sign_of_ending (.inl rfl)
  unfold signKind? at isSemicolon
  split at isSemicolon <;> cases isSemicolon
  rfl

theorem eof_notMem_kindsOf {next? : Option Char} {spans : List Span} (h : Lexed next? spans) :
    .eof ∉ kindsOf spans := by
  induction spans with
  | nil => simp
  | cons span rest ih =>
    obtain ⟨reads, later⟩ := h
    rw [kindsOf_cons, List.mem_append, not_or]
    exact ⟨fun member => reads.kind_ne_eof (Option.mem_toList.1 member), ih later⟩

/-- Lexing goes on after what a step takes off. -/
theorem tokensFrom_cons_eq_ok_iff {position : Nat} {c : Char} {rest : List Char}
    {tokens : List Token} :
    tokensFrom position (c :: rest) = .ok tokens ↔
      ∃ lexeme later, nextLexeme position c rest = .ok lexeme ∧
        tokensFrom (position + lexeme.width) lexeme.rest = .ok later ∧
        tokens = (lexeme.kind?.map (⟨·, position⟩)).toList ++ later := by
  rw [tokensFrom]
  constructor
  · intro h
    split at h
    · cases h
    rename_i lexeme step
    refine ⟨lexeme, ?_⟩
    split at h
    · cases h
    rename_i later lexes
    refine ⟨later, step, lexes, ?_⟩
    split at h <;> rename_i kind <;> cases h <;> simp [kind]
  · rintro ⟨lexeme, later, step, lexes, rfl⟩
    split
    · rename_i e failed
      rw [step] at failed
      cases failed
    · rename_i taken takes
      obtain rfl : lexeme = taken := by simpa [step] using takes
      rw [lexes]
      cases kind : lexeme.kind? <;> simp

/-- Lexing succeeds exactly on rows of spans. -/
theorem tokensFrom_eq_ok_iff {position : Nat} {cs : List Char} {tokens : List Token} :
    tokensFrom position cs = .ok tokens ↔
      ∃ spans, textOf spans = cs ∧ Lexed none spans ∧ tokens = tokensOf position spans := by
  constructor
  · intro h
    induction size : cs.length using Nat.strongRecOn generalizing position cs tokens with
    | ind size ih =>
      cases cs with
      | nil =>
        rw [tokensFrom] at h
        cases h
        exact ⟨[], rfl, trivial, rfl⟩
      | cons c rest =>
        obtain ⟨lexeme, later, step, lexes, rfl⟩ := tokensFrom_cons_eq_ok_iff.1 h
        have shorter := rest_length_of_nextLexeme step
        obtain ⟨spans, whole, lexed, rfl⟩ :=
          ih _ (by simp only [List.length_cons] at size; omega) lexes rfl
        obtain ⟨text, front, width, reads⟩ := nextLexeme_eq_ok_iff.1 step
        refine ⟨⟨text, lexeme.kind?⟩ :: spans, by simp [whole, front], ⟨?_, lexed⟩, ?_⟩
        · rw [whole, Option.or_none]
          exact reads
        · simp [tokensOf, width]
  · rintro ⟨spans, rfl, lexed, rfl⟩
    induction spans generalizing position with
    | nil => rw [textOf_nil, tokensFrom, tokensOf]
    | cons span rest ih =>
      obtain ⟨reads, later⟩ := lexed
      rw [Option.or_none] at reads
      obtain ⟨text, kind?⟩ := span
      cases text with
      | nil => exact absurd rfl reads.text_ne_nil
      | cons c text =>
        have step := nextLexeme_of_reads position reads
        exact tokensFrom_cons_eq_ok_iff.2 ⟨_, _, step, ih later, rfl⟩

/-- Lexing from the beginning, with the kinds of the tokens only. -/
theorem tokenize_eq_ok_iff {text : String} {tokens : List Token} :
    tokenize text = .ok tokens ↔
      ∃ spans, textOf spans = text.toList ∧ Lexed none spans ∧ tokens = tokensOf 0 spans :=
  tokensFrom_eq_ok_iff

/-- A text that begins with spans lexes to them first, since a step of the lexer has one result. -/
theorem exists_append_of_lexed {front spans : List Span} {rest : List Char}
    (begins : textOf spans = textOf front ++ rest) (lexed : Lexed none spans)
    (reads : Lexed rest.head? front) : ∃ more, spans = front ++ more := by
  induction front generalizing spans with
  | nil => exact ⟨spans, rfl⟩
  | cons span front ih =>
    obtain ⟨text, kind?⟩ := span
    obtain ⟨readsFirst, readsLater⟩ := reads
    rw [← List.head?_append] at readsFirst
    cases text with
    | nil => exact absurd rfl readsFirst.text_ne_nil
    | cons c text =>
      cases spans with
      | nil => cases begins
      | cons other spans =>
        obtain ⟨otherText, otherKind?⟩ := other
        obtain ⟨first, later⟩ := lexed
        rw [Option.or_none] at first
        cases otherText with
        | nil => exact absurd rfl first.text_ne_nil
        | cons d otherText =>
          simp only [textOf_cons, List.cons_append, List.append_assoc, List.cons.injEq] at begins
          obtain ⟨rfl, same⟩ := begins
          have step := nextLexeme_of_reads 0 first
          rw [same, nextLexeme_of_reads 0 readsFirst] at step
          simp only [Except.ok.injEq, Lexeme.mk.injEq] at step
          obtain ⟨rfl, -, behind⟩ := step
          rw [behind, List.append_cancel_right_eq] at same
          obtain ⟨more, rfl⟩ := ih behind.symm later readsLater
          exact ⟨more, by rw [same, List.cons_append]⟩

/-- A result as an option can be compared with a given one. -/
theorem eq_ok_of_toOption {ε α : Type} {result : Except ε α} {value : α}
    (h : result.toOption = some value) : result = .ok value := by
  cases result with
  | error e => cases h
  | ok found =>
    cases h
    rfl

theorem tokenize_of_toOption {text : String} {tokens : List Token}
    (h : (tokenize text).toOption = some tokens) : tokenize text = .ok tokens :=
  eq_ok_of_toOption h

end SqlGrader.Lexer
