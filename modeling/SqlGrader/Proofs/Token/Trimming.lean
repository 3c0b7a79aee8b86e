import SqlGrader.Proofs.Token.Lexing

/-!
# White space around spans

The end of the text or a line feed may stand behind every span, and white space at the ends of a
text makes no tokens. Main statement: trimming leaves the kinds of the tokens as they are
(`exists_trim`).
-/

set_option autoImplicit false

namespace SqlGrader.Lexer

/-- What may stand behind every span. -/
def Blank (next? : Option Char) : Prop :=
  next? = none ∨ next? = some '\n'

/-- A span stays one in front of the end or of a line feed. -/
theorem Reads.blank {next? other? : Option Char} {text : List Char} {kind? : Option TokenKind}
    (h : Reads next? text kind?) (blank : Blank other?) : Reads other? text kind? := by
  cases h with
  | whiteSpace white => exact .whiteSpace white
  | lineComment inside stop =>
    refine .lineComment inside fun d next => ?_
    rcases blank with rfl | rfl <;> cases next
    rfl
  | blockComment inside => exact .blockComment inside
  | string stop => exact .string (by obtain rfl | rfl := blank <;> simp)
  | identifier sign stop =>
    refine .identifier sign ?_
    rcases blank with rfl | rfl <;> obtain rfl | rfl := sign <;> simp
  | whole first inside stop value =>
    refine .whole first inside (fun d next => ?_) value
    rcases blank with rfl | rfl <;> cases next
    decide
  | fraction first inside behind stop value =>
    refine .fraction first inside behind (fun d next => ?_) value
    rcases blank with rfl | rfl <;> cases next
    decide
  | word first inside stop =>
    refine .word first inside fun d next => ?_
    rcases blank with rfl | rfl <;> cases next
    decide
  | sign notWhite notQuote notDigit notWord notComment notBlock =>
    refine .sign notWhite notQuote notDigit notWord ?_ ?_ <;>
      rcases blank with rfl | rfl <;> simp

theorem Lexed.blank {next? other? : Option Char} {spans : List Span} (h : Lexed next? spans)
    (blank : Blank other?) : Lexed other? spans := by
  induction spans with
  | nil => trivial
  | cons span rest ih =>
    obtain ⟨reads, later⟩ := h
    refine ⟨?_, ih later⟩
    cases head : (textOf rest).head? with
    | none => exact reads.blank (by simpa using blank)
    | some c => simpa [head] using reads

theorem not_white_of_continuesWord {c : Char} (h : continuesWord c = true) :
    Unicode.isWhiteSpace c = false := by
  apply Bool.eq_false_iff.2
  intro white
  rw [continuesWord, Unicode.isAlphanumeric_of_isWhiteSpace white, Bool.false_or,
    decide_eq_true_eq] at h
  subst h
  revert white
  decide

/-- A text without white space at its ends. -/
structure Solid (text : List Char) : Prop where
  first : ∃ c, text.head? = some c ∧ Unicode.isWhiteSpace c = false
  last : ∃ c, text.getLast? = some c ∧ Unicode.isWhiteSpace c = false

theorem solid_of_forall {c : Char} {rest : List Char}
    (solid : ∀ d ∈ c :: rest, Unicode.isWhiteSpace d = false) : Solid (c :: rest) :=
  ⟨⟨c, rfl, solid c List.mem_cons_self⟩,
    ⟨_, List.getLast?_eq_some_getLast (List.cons_ne_nil c rest), solid _ (List.getLast_mem _)⟩⟩

theorem solid_quoted {quote : Char} (notWhite : Unicode.isWhiteSpace quote = false)
    (inner : List Char) : Solid (quote :: (inner ++ [quote])) :=
  ⟨⟨quote, rfl, notWhite⟩, ⟨quote, by simp [List.getLast?_cons], notWhite⟩⟩

/-- A span is a character of white space, a line comment, or a text without white space at its
ends. -/
theorem Reads.shape {next? : Option Char} {text : List Char} {kind? : Option TokenKind}
    (h : Reads next? text kind?) :
    (∃ c, text = [c] ∧ Unicode.isWhiteSpace c = true ∧ kind? = none) ∨
      (∃ body, text = '-' :: '-' :: body ∧ '\n' ∉ body ∧ kind? = none ∧
        ∀ d, next? = some d → d = '\n') ∨
      Solid text := by
  cases h with
  | @whiteSpace c white => exact .inl ⟨c, rfl, white, rfl⟩
  | @lineComment body inside stop => exact .inr (.inl ⟨body, rfl, inside, rfl, stop⟩)
  | @blockComment body inside =>
    refine .inr (.inr ⟨⟨'/', rfl, by decide⟩, ⟨'/', ?_, by decide⟩⟩)
    simp [List.getLast?_cons]
  | string stop => exact .inr (.inr (solid_quoted (by decide) _))
  | identifier sign stop =>
    refine .inr (.inr (solid_quoted ?_ _))
    rcases sign with rfl | rfl <;> decide
  | whole first inside stop value =>
    refine .inr (.inr (solid_of_forall fun d member => Unicode.isWhiteSpace_of_isDigit ?_))
    rcases List.mem_cons.1 member with rfl | member
    · exact first
    · exact inside d member
  | fraction first inside behind stop value =>
    refine .inr (.inr (solid_of_forall fun d member => ?_))
    rcases List.mem_cons.1 member with rfl | member
    · exact Unicode.isWhiteSpace_of_isDigit first
    rcases List.mem_append.1 member with digit | member
    · exact Unicode.isWhiteSpace_of_isDigit (inside d digit)
    rcases List.mem_cons.1 member with rfl | digit
    · decide
    · exact Unicode.isWhiteSpace_of_isDigit (behind d digit)
  | word first inside stop =>
    refine .inr (.inr (solid_of_forall fun d member => ?_))
    rcases List.mem_cons.1 member with rfl | member
    · exact (word_first first).1
    · exact not_white_of_continuesWord (inside d member)
  | sign notWhite =>
    refine .inr (.inr (solid_of_forall fun d member => ?_))
    obtain rfl := List.mem_singleton.1 member
    exact notWhite

theorem dash_apart {text : List Char} (h : '-' ∉ text) :
    text.head? ≠ some '-' ∧ text.getLast? ≠ some '-' :=
  ⟨fun first => h (List.mem_of_head? first), fun last => h (List.mem_of_getLast? last)⟩

/-- A token neither begins nor ends with a dash unless it is the sign, which no dash follows. -/
theorem Reads.dash {next? : Option Char} {text : List Char} {kind : TokenKind}
    (h : Reads next? text (some kind)) :
    (text = ['-'] ∧ next? ≠ some '-') ∨ (text.head? ≠ some '-' ∧ text.getLast? ≠ some '-') := by
  have notDigit : '-'.isDigit = false := by decide
  cases h with
  | string stop => exact .inr (by simp [List.getLast?_cons])
  | identifier sign stop =>
    refine .inr ?_
    rcases sign with rfl | rfl <;> simp [List.getLast?_cons]
  | whole first inside stop value =>
    refine .inr (dash_apart fun member => ?_)
    rcases List.mem_cons.1 member with rfl | digit
    · exact absurd first (by simp [notDigit])
    · exact absurd (inside _ digit) (by simp [notDigit])
  | fraction first inside behind stop value =>
    refine .inr (dash_apart fun member => ?_)
    rcases List.mem_cons.1 member with rfl | member
    · exact absurd first (by simp [notDigit])
    rcases List.mem_append.1 member with digit | member
    · exact absurd (inside _ digit) (by simp [notDigit])
    rcases List.mem_cons.1 member with point | digit
    · cases point
    · exact absurd (behind _ digit) (by simp [notDigit])
  | word first inside stop =>
    refine .inr (dash_apart fun member => ?_)
    rcases List.mem_cons.1 member with rfl | letter
    · exact absurd rfl (word_first first).2.1
    · exact absurd (inside _ letter) (by decide)
  | @sign c notWhite notQuote notDigit notWord notComment notBlock =>
    by_cases dash : c = '-'
    · subst dash
      exact .inl ⟨rfl, notComment rfl⟩
    · exact .inr ⟨by simpa using dash, by simpa using dash⟩

/-- White space at the front of a span is all of it. -/
theorem Reads.eq_of_white {next? : Option Char} {c : Char} {rest : List Char}
    {kind? : Option TokenKind} (h : Reads next? (c :: rest) kind?)
    (white : Unicode.isWhiteSpace c = true) : rest = [] ∧ kind? = none := by
  rcases h.shape with ⟨d, same, -, none?⟩ | ⟨body, same, -⟩ | ⟨⟨d, head, notWhite⟩, -⟩
  · exact ⟨(List.cons.inj same).2, none?⟩
  · obtain ⟨rfl, -⟩ := List.cons.inj same
    exact absurd white (by decide)
  · cases head
    rw [notWhite] at white
    cases white

/-- White space at the end of a span is all of it or belongs to a line comment. -/
theorem Reads.drop_last_white {next? : Option Char} {text : List Char} {c : Char}
    {kind? : Option TokenKind} (h : Reads next? (text ++ [c]) kind?)
    (white : Unicode.isWhiteSpace c = true) :
    kind? = none ∧ (text = [] ∨ Reads none text none) := by
  obtain ⟨d, same, -, none?⟩ | ⟨body, same, inside, none?, -⟩ | ⟨-, ⟨d, last, notWhite⟩⟩ := h.shape
  · exact ⟨none?, .inl (by simpa using congrArg List.dropLast same)⟩
  · refine ⟨none?, ?_⟩
    have shorter := congrArg List.dropLast same
    rw [List.dropLast_concat] at shorter
    cases body with
    | nil =>
      obtain rfl : c = '-' := by simpa using congrArg List.getLast? same
      exact absurd white (by decide)
    | cons e body =>
      rw [List.dropLast_cons_cons, List.dropLast_cons_cons] at shorter
      rw [shorter]
      refine .inr (.lineComment (fun member => inside ?_) (by simp))
      exact List.dropLast_subset _ member
  · obtain rfl : c = d := by simpa using last
    rw [notWhite] at white
    cases white

/-! ## Trimming -/

theorem exists_trimStart {next? : Option Char} {spans : List Span} (h : Lexed next? spans) :
    ∃ others, textOf others = Unicode.trimStart (textOf spans) ∧ Lexed next? others ∧
      kindsOf others = kindsOf spans := by
  induction spans with
  | nil => exact ⟨[], rfl, trivial, rfl⟩
  | cons span rest ih =>
    obtain ⟨reads, later⟩ := h
    obtain ⟨text, kind?⟩ := span
    cases text with
    | nil => exact absurd rfl reads.text_ne_nil
    | cons c text =>
      by_cases white : Unicode.isWhiteSpace c = true
      · obtain ⟨rfl, rfl⟩ := reads.eq_of_white white
        obtain ⟨others, trimmed, lexed, kinds⟩ := ih later
        refine ⟨others, ?_, lexed, by rw [kinds, kindsOf_cons]; rfl⟩
        simp [trimmed, Unicode.trimStart, white]
      · refine ⟨⟨c :: text, kind?⟩ :: rest, ?_, ⟨reads, later⟩, rfl⟩
        simp [Unicode.trimStart, white]

theorem exists_dropLast {spans : List Span} {text : List Char} {c : Char} (h : Lexed none spans)
    (whole : textOf spans = text ++ [c]) (white : Unicode.isWhiteSpace c = true) :
    ∃ others, textOf others = text ∧ Lexed none others ∧ kindsOf others = kindsOf spans := by
  rcases spans.eq_nil_or_concat with rfl | ⟨front, span, rfl⟩
  · simp at whole
  rw [List.concat_eq_append] at h whole ⊢
  obtain ⟨before, reads, -⟩ := lexed_append.1 h
  obtain ⟨last, kind?⟩ := span
  rcases last.eq_nil_or_concat with rfl | ⟨shorter, d, rfl⟩
  · exact absurd rfl reads.text_ne_nil
  simp only [List.concat_eq_append] at reads before whole
  have parts : (textOf front ++ shorter) ++ [d] = text ++ [c] := by simpa using whole
  obtain ⟨rfl, same⟩ := List.append_inj' parts rfl
  cases same
  obtain ⟨rfl, rfl | comment⟩ := reads.drop_last_white white
  · exact ⟨front, by simp, before.blank (.inl rfl), by simp [kindsOf_cons]⟩
  · refine ⟨front ++ [⟨shorter, none⟩], by simp, ?_, by simp [kindsOf_cons]⟩
    refine lexed_append.2 ⟨?_, by simpa using comment, trivial⟩
    cases shorter with
    | nil => exact absurd rfl comment.text_ne_nil
    | cons e shorter => simpa using before

theorem exists_append_white {spans : List Span} {text white : List Char} (h : Lexed none spans)
    (whole : textOf spans = text ++ white) (blank : ∀ c ∈ white, Unicode.isWhiteSpace c = true) :
    ∃ others, textOf others = text ∧ Lexed none others ∧ kindsOf others = kindsOf spans := by
  induction white generalizing text with
  | nil => exact ⟨spans, by simpa using whole, h, rfl⟩
  | cons c white ih =>
    have parts : textOf spans = (text ++ [c]) ++ white := by simpa using whole
    obtain ⟨longer, longerText, lexed, kinds⟩ := ih parts fun d member =>
      blank d (List.mem_cons_of_mem c member)
    obtain ⟨others, trimmed, lexed, same⟩ :=
      exists_dropLast lexed longerText (blank c List.mem_cons_self)
    exact ⟨others, trimmed, lexed, same.trans kinds⟩

/-- Trimming leaves the kinds of the tokens as they are. -/
theorem exists_trim {spans : List Span} (h : Lexed none spans) :
    ∃ others, textOf others = Unicode.trim (textOf spans) ∧ Lexed none others ∧
      kindsOf others = kindsOf spans := by
  obtain ⟨started, startedText, lexed, kinds⟩ := exists_trimStart h
  let backward := (textOf started).reverse
  have cut : backward.takeWhile Unicode.isWhiteSpace ++ Unicode.trimStart backward = backward :=
    List.takeWhile_append_dropWhile
  have whole := congrArg List.reverse cut
  rw [List.reverse_append, List.reverse_reverse] at whole
  obtain ⟨others, trimmed, lexed, same⟩ := exists_append_white lexed whole.symm fun c member =>
    (Text.longest_front backward).1 c (List.mem_reverse.1 member)
  refine ⟨others, ?_, lexed, same.trans kinds⟩
  rw [trimmed, Unicode.trim, ← startedText]

end SqlGrader.Lexer
