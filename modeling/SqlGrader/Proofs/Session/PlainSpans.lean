import SqlGrader.Proofs.Session.CommentLines
import SqlGrader.Proofs.Token.Lexing

/-!
# Plain spans

`Plain` says of a span that cutting its text at semicolons and dropping its comment lines does not
change what it means. Main statement: a script without quotes is a row of plain spans if its
comments are of a line each and hold no semicolon (`plainScript_of_bare`).
-/

set_option autoImplicit false

namespace SqlGrader.Script

open Lexer

/-- A span that says the same after its text is cut at semicolons and stripped. A semicolon is
in it as the token only. No line that begins inside a token reads as a comment line, nor does the
last line that begins inside a comment; and a token gives up no carriage return. -/
structure Plain (span : Span) : Prop where
  semicolon : ';' ∈ span.text → span.kind? = some .semicolon
  lines : ∀ before after, span.text = before ++ '\n' :: after →
    span.kind? ≠ none ∨ '\n' ∉ after → keeps after = true
  noReturn : span.kind? ≠ none → ¬ ['\r', '\n'] <:+: span.text

theorem plain_of_one_line {span : Span} (line : '\n' ∉ span.text)
    (semicolon : ';' ∈ span.text → span.kind? = some .semicolon) : Plain span := by
  refine ⟨semicolon, fun before after whole => ?_, fun _ found => ?_⟩
  · exact absurd (by simp [whole]) line
  · exact absurd (found.subset (by simp)) line

theorem plain_newline : Plain ⟨['\n'], none⟩ := by
  refine ⟨by simp, fun before after whole => ?_, by simp⟩
  obtain rfl : after = [] := by
    cases before with
    | nil => exact (List.cons.inj whole).2.symm
    | cons c before => simp at whole
  exact fun _ => rfl

/-- A script that is a row of plain spans. -/
def PlainScript (script : String) : Prop :=
  ∃ spans, textOf spans = script.toList ∧ Lexed none spans ∧ ∀ span ∈ spans, Plain span

/-! ## Scripts without quotes -/

/-- A text without quotes and block comments, in whose line comments no semicolon stands. -/
structure BareText (cs : List Char) : Prop where
  quotes : '\'' ∉ cs ∧ '"' ∉ cs ∧ '\x60' ∉ cs
  block : ¬ ['/', '*'] <:+: cs
  line : ∀ n < cs.length, ['-', '-'] <+: cs.drop n → ';' ∉ firstLine (cs.drop n)

theorem plain_of_class {p : Char → Bool} {text : List Char} {kind? : Option TokenKind}
    (inside : ∀ c ∈ text, p c = true) (newline : p '\n' = false) (semicolon : p ';' = false) :
    Plain ⟨text, kind?⟩ := by
  refine plain_of_one_line (fun member => ?_) fun member => ?_
  · exact absurd (inside '\n' member) (by simp [newline])
  · exact absurd (inside ';' member) (by simp [semicolon])

theorem plain_of_bare {before text after : List Char} {kind? : Option TokenKind}
    (h : Reads after.head? text kind?) (bare : BareText (before ++ (text ++ after))) :
    Plain ⟨text, kind?⟩ := by
  obtain ⟨⟨single, double, back⟩, block, line⟩ := bare
  have within : text <:+: before ++ (text ++ after) := ⟨before, after, by simp⟩
  cases h with
  | @whiteSpace c white =>
    by_cases newline : c = '\n'
    · subst newline
      exact plain_newline
    · apply plain_of_one_line (by simpa using Ne.symm newline)
      intro member
      obtain rfl := List.mem_singleton.1 member
      exact absurd white (by decide)
  | @lineComment body inside stop =>
    have whole := line before.length (by simp)
    rw [List.drop_left] at whole
    have absent := whole ⟨body ++ after, rfl⟩
    have oneLine : '\n' ∉ '-' :: '-' :: body := by simpa using inside
    rw [firstLine_append oneLine, List.mem_append, not_or] at absent
    exact plain_of_one_line oneLine fun member => absurd member absent.1
  | blockComment inside =>
    have opened : ['/', '*'] <:+: before ++ (_ ++ after) := List.IsInfix.trans ⟨[], _, rfl⟩ within
    exact absurd opened block
  | string stop => exact absurd (within.subset List.mem_cons_self) single
  | identifier sign stop =>
    rcases sign with rfl | rfl
    · exact absurd (within.subset List.mem_cons_self) double
    · exact absurd (within.subset List.mem_cons_self) back
  | whole first inside stop value =>
    refine plain_of_class (p := Char.isDigit) (fun d member => ?_) (by decide) (by decide)
    rcases List.mem_cons.1 member with rfl | digit
    · exact first
    · exact inside d digit
  | fraction first inside behind stop value =>
    refine plain_of_class (p := fun d => d.isDigit || d == '.') (fun d member => ?_) (by decide)
      (by decide)
    rcases List.mem_cons.1 member with rfl | member
    · simp [first]
    rcases List.mem_append.1 member with digit | member
    · simp [inside d digit]
    rcases List.mem_cons.1 member with rfl | digit
    · rfl
    · simp [behind d digit]
  | word first inside stop =>
    refine plain_of_class (p := fun d => beginsWord d || continuesWord d) (fun d member => ?_)
      (by decide) (by decide)
    rcases List.mem_cons.1 member with rfl | letter
    · simp [first]
    · simp [inside d letter]
  | @sign c notWhite =>
    refine plain_of_one_line (fun member => ?_) fun member => ?_
    · obtain rfl := List.mem_singleton.1 member
      exact absurd notWhite (by decide)
    · obtain rfl := List.mem_singleton.1 member
      rfl

/-- A script without quotes and block comments is plain if no semicolon stands in a line
comment. -/
theorem plainScript_of_bare {script : String} {tokens : List Token}
    (lexes : tokenize script = .ok tokens) (bare : BareText script.toList) :
    PlainScript script := by
  obtain ⟨spans, whole, lexed, -⟩ := tokenize_eq_ok_iff.1 lexes
  refine ⟨spans, whole, lexed, fun span member => ?_⟩
  obtain ⟨before, after, rfl⟩ := List.append_of_mem member
  obtain ⟨-, reads, -⟩ := lexed_append.1 lexed
  rw [← whole, textOf_append, textOf_cons] at bare
  rw [Option.or_none] at reads
  exact plain_of_bare reads bare

end SqlGrader.Script
