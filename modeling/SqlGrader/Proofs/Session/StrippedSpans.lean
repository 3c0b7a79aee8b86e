import SqlGrader.Proofs.Session.PlainSpans
import SqlGrader.Proofs.Token.Trimming

/-!
# Spans without comment lines

Stripping works on lines and lexing on spans. A span in a dropped line is white space or a line
comment, and a plain span in a kept line stays what it is. Main statement: stripping a row of
plain spans leaves the kinds of the tokens as they are (`strips_of_plain`).
-/

set_option autoImplicit false

namespace SqlGrader.Script

open Lexer

/-! ## Lines -/

theorem ne_newline {c : Char} (notWhite : Unicode.isWhiteSpace c = false) : c ≠ '\n' := by
  intro same
  rw [same] at notWhite
  exact absurd notWhite (by decide)

/-- A line with a character in front of which nothing but white space stands is kept unless it
begins with two dashes. -/
theorem keeps_cons {c : Char} {rest : List Char} (notWhite : Unicode.isWhiteSpace c = false)
    (notComment : c = '-' → rest.head? ≠ some '-') : keeps (c :: rest) = true := by
  rw [keeps, firstLine_cons (ne_newline notWhite), isCommentLine, Unicode.trimStart,
    List.dropWhile_cons_of_neg (by simp [notWhite])]
  cases line : firstLine rest with
  | nil => simp [List.isPrefixOf]
  | cons d others =>
    have different : '-' = c → '-' ≠ d := by
      rintro rfl rfl
      exact notComment rfl (head?_firstLine (by rw [line]; rfl))
    simpa [List.isPrefixOf] using Decidable.imp_iff_not_or.1 different

/-- What follows a text that does not end in white space decides about no line of it. -/
theorem keeps_append {text rest : List Char} {last : Char} (ends : text.getLast? = some last)
    (notWhite : Unicode.isWhiteSpace last = false) (apart : last = '-' → rest.head? ≠ some '-')
    (kept : keeps text = true) : keeps (text ++ rest) = true := by
  by_cases newline : '\n' ∈ text
  · obtain ⟨line, others, rfl, inside⟩ := List.eq_append_cons_of_mem newline
    rw [keeps, firstLine_append_newline inside] at kept
    rw [keeps, List.append_assoc, List.cons_append, firstLine_append_newline inside, kept]
  · have whole := firstLine_append newline []
    rw [List.append_nil, show firstLine [] = [] from rfl, List.append_nil] at whole
    rw [keeps, whole] at kept
    rw [keeps, firstLine_append newline, isCommentLine_append, kept]
    · intro dash next
      rw [ends, Option.some_inj] at dash
      exact apart dash (head?_firstLine next)
    · intro blank
      have cut : text.takeWhile Unicode.isWhiteSpace ++ Unicode.trimStart text = text :=
        List.takeWhile_append_dropWhile
      have member := List.mem_of_getLast? ends
      rw [← cut, blank, List.append_nil] at member
      have white := (Text.longest_front text).1 last member
      rw [notWhite] at white
      cases white

/-! ## Spans -/

theorem head?_strip (cs : List Char) :
    (strip true cs).head? = cs.head? ∨ (strip true cs).head? = some '\n' := by
  cases cs with
  | nil => exact .inl (by simp)
  | cons c rest =>
    by_cases newline : c = '\n'
    · subst newline
      exact .inr (by simp [strip_newline])
    · by_cases isReturn : c = '\r' ∧ rest.head? = some '\n'
      · obtain ⟨rfl, next⟩ := isReturn
        obtain ⟨others, rfl⟩ := List.head?_eq_some_iff.1 next
        exact .inr (by simp [strip_return, strip_newline])
      · exact .inl (by simp [strip_true_cons newline isReturn])

/-- What is stripped behind a span leaves it a span. -/
theorem reads_strip {text rest : List Char} {kind? : Option TokenKind}
    (h : Reads rest.head? text kind?) : Reads (strip true rest).head? text kind? := by
  rcases head?_strip rest with same | newline
  · rwa [same]
  · rw [newline]
    exact h.blank (.inr rfl)

/-- The text of a token stays as it is. -/
theorem strip_append {text rest : List Char} {last : Char} (ends : text.getLast? = some last)
    (notWhite : Unicode.isWhiteSpace last = false) (apart : last = '-' → rest.head? ≠ some '-')
    (lines : ∀ before after, text = before ++ '\n' :: after → keeps after = true)
    (noReturn : ¬ ['\r', '\n'] <:+: text) :
    strip true (text ++ rest) = text ++ strip true rest := by
  induction text with
  | nil => cases ends
  | cons c text ih =>
    cases text with
    | nil =>
      cases ends
      apply strip_true_cons (ne_newline notWhite)
      intro isReturn
      rw [isReturn.1] at notWhite
      exact absurd notWhite (by decide)
    | cons d text =>
      rw [List.getLast?_cons_cons] at ends
      have later := ih ends
        (fun before after whole => lines (c :: before) after (by rw [whole, List.cons_append]))
        (fun found => noReturn (found.trans (List.suffix_cons c _).isInfix))
      by_cases newline : c = '\n'
      · subst newline
        have kept := keeps_append ends notWhite apart (lines [] (d :: text) rfl)
        rw [List.cons_append, strip_newline, kept, later]
        rfl
      · rw [List.cons_append, strip_true_cons newline, later]
        · rfl
        · rintro ⟨rfl, next⟩
          obtain rfl : d = '\n' := by simpa using next
          exact noReturn ⟨[], text, rfl⟩

theorem strip_false_append {line : List Char} (inside : '\n' ∉ line) (rest : List Char) :
    strip false (line ++ rest) = strip false rest := by
  induction line with
  | nil => rfl
  | cons c line ih =>
    rw [List.mem_cons, not_or] at inside
    rw [List.cons_append, strip_false_cons (Ne.symm inside.1), ih inside.2]

/-- A line gives up no more than the carriage return at its end. -/
theorem exists_strip_line {line : List Char} (inside : '\n' ∉ line) (rest : List Char) :
    ∃ shorter, strip true (line ++ rest) = shorter ++ strip true rest ∧ '\n' ∉ shorter := by
  induction line with
  | nil => exact ⟨[], rfl, by simp⟩
  | cons c line ih =>
    rw [List.mem_cons, not_or] at inside
    obtain ⟨shorter, stripped, within⟩ := ih inside.2
    by_cases isReturn : c = '\r' ∧ (line ++ rest).head? = some '\n'
    · refine ⟨shorter, ?_, within⟩
      obtain ⟨rfl, next⟩ := isReturn
      obtain ⟨others, whole⟩ := List.head?_eq_some_iff.1 next
      rw [List.cons_append, ← stripped, whole, strip_return]
    · refine ⟨c :: shorter, ?_, by simp [inside.1, within]⟩
      rw [List.cons_append, strip_true_cons (Ne.symm inside.1) isReturn, stripped]
      rfl

/-- Behind a line feed in a block comment only a line that ends in the comment is dropped. -/
theorem newline_mem_of_dropped {body rest : List Char}
    (last : '\n' ∉ body → keeps (body ++ ['*', '/']) = true)
    (dropped : keeps (body ++ '*' :: '/' :: rest) = false) : '\n' ∈ body := by
  apply Decidable.byContradiction
  intro whole
  have kept : keeps ((body ++ ['*', '/']) ++ rest) = true :=
    keeps_append (by simp) (by decide : Unicode.isWhiteSpace '/' = false) (by simp) (last whole)
  rw [List.append_assoc] at kept
  cases kept.symm.trans dropped

/-- What is left of the body of a block comment when the text is stripped: the comment keeps its
end, which is still the first one. -/
def LeavesBody (keep : Bool) (body rest shorter : List Char) : Prop :=
  strip keep (body ++ '*' :: '/' :: rest) = shorter ++ '*' :: '/' :: strip true rest ∧
    ¬ ['*', '/'] <:+: shorter ∧
    (keep = true → shorter.head? = body.head? ∨ shorter.head? = some '\n')

theorem leavesBody_nil (rest : List Char) : LeavesBody true [] rest [] := by
  refine ⟨?_, by simp, fun _ => .inl rfl⟩
  rw [List.nil_append, strip_true_cons (by decide) (by simp), strip_true_cons (by decide) (by simp)]
  rfl

theorem LeavesBody.newline {keep : Bool} {body rest shorter : List Char}
    (h : LeavesBody (keeps (body ++ '*' :: '/' :: rest)) body rest shorter) :
    LeavesBody keep ('\n' :: body) rest ((if keep then ['\n'] else []) ++ shorter) := by
  obtain ⟨stripped, within, -⟩ := h
  refine ⟨by rw [List.cons_append, strip_newline, stripped, List.append_assoc], ?_, ?_⟩
  · cases keep with
    | false => exact within
    | true =>
      have apart : ¬ ['*', '/'] <:+: '\n' :: shorter := by
        rw [close_infix_cons]
        simpa using within
      exact apart
  · rintro rfl
    exact .inr rfl

theorem LeavesBody.dropped {c : Char} {body rest shorter : List Char} (newline : c ≠ '\n')
    (h : LeavesBody false body rest shorter) : LeavesBody false (c :: body) rest shorter := by
  obtain ⟨stripped, within, -⟩ := h
  exact ⟨by rw [List.cons_append, strip_false_cons newline, stripped], within, by simp⟩

theorem LeavesBody.kept {c : Char} {body rest shorter : List Char} (newline : c ≠ '\n')
    (inside : ¬ ['*', '/'] <:+: c :: body) (h : LeavesBody true body rest shorter) :
    ∃ others, LeavesBody true (c :: body) rest others := by
  obtain ⟨stripped, within, first⟩ := h
  have first := first rfl
  by_cases isReturn : c = '\r' ∧ (body ++ '*' :: '/' :: rest).head? = some '\n'
  · obtain ⟨rfl, next⟩ := isReturn
    refine ⟨shorter, ?_, within, fun _ => .inr ?_⟩
    · obtain ⟨others, whole⟩ := List.head?_eq_some_iff.1 next
      rw [List.cons_append, ← stripped, whole, strip_return]
    · cases body with
      | nil => simp at next
      | cons d body =>
        obtain rfl : d = '\n' := by simpa using next
        simpa using first
  · refine ⟨c :: shorter, ?_, ?_, fun _ => .inl rfl⟩
    · rw [List.cons_append, strip_true_cons newline isReturn, stripped]
      rfl
    · rw [close_infix_cons, not_or] at inside ⊢
      refine ⟨?_, within⟩
      rintro ⟨star, slash⟩
      rcases first with same | same <;> rw [same] at slash
      · exact inside.1 ⟨star, slash⟩
      · cases slash

theorem exists_leavesBody {keep : Bool} {body : List Char} (rest : List Char)
    (inside : ¬ ['*', '/'] <:+: body)
    (lines : ∀ before after, body = before ++ '\n' :: after → '\n' ∉ after →
      keeps (after ++ ['*', '/']) = true)
    (dropped : keep = false → '\n' ∈ body) : ∃ shorter, LeavesBody keep body rest shorter := by
  -- a dropped line needs a line feed before the end of the comment, or the end is lost with it
  induction body generalizing keep with
  | nil =>
    cases keep with
    | false => cases dropped rfl
    | true => exact ⟨[], leavesBody_nil rest⟩
  | cons c body ih =>
    have later : ¬ ['*', '/'] <:+: body := fun found => inside (List.infix_cons found)
    have linesLater : ∀ before after, body = before ++ '\n' :: after → '\n' ∉ after →
        keeps (after ++ ['*', '/']) = true := fun before after whole =>
      lines (c :: before) after (by rw [whole, List.cons_append])
    by_cases newline : c = '\n'
    · subst newline
      obtain ⟨shorter, leaves⟩ :=
        ih later linesLater (newline_mem_of_dropped (lines [] body rfl))
      exact ⟨_, leaves.newline⟩
    cases keep with
    | false =>
      have more : false = false → '\n' ∈ body := fun _ => by
        simpa [Ne.symm newline] using dropped rfl
      obtain ⟨shorter, leaves⟩ := ih later linesLater more
      exact ⟨shorter, leaves.dropped newline⟩
    | true =>
      have kept : true = false → '\n' ∈ body := by simp
      obtain ⟨shorter, leaves⟩ := ih later linesLater kept
      exact leaves.kept newline inside

/-- Up to the next line feed stands a comment line or nothing. -/
def Droppable (cs : List Char) : Prop :=
  firstLine cs = [] ∨ keeps cs = false

/-- A line that is dropped begins with white space or with a line comment. -/
theorem not_droppable {c : Char} {rest : List Char} (notWhite : Unicode.isWhiteSpace c = false)
    (notComment : c = '-' → rest.head? ≠ some '-') :
    ¬ Droppable (c :: rest) := by
  unfold Droppable
  rw [keeps_cons notWhite notComment]
  rintro (blank | dropped)
  · rw [firstLine_cons (ne_newline notWhite)] at blank
    cases blank
  · cases dropped

/-- The line goes on behind white space. -/
theorem dropped_of_white {c : Char} {rest : List Char} (white : Unicode.isWhiteSpace c = true)
    (inside : c ≠ '\n') (dropped : Droppable (c :: rest)) : keeps rest = false := by
  unfold Droppable at dropped
  rw [keeps, firstLine_cons inside] at dropped
  rcases dropped with blank | dropped
  · cases blank
  · rwa [isCommentLine, Unicode.trimStart, List.dropWhile_cons_of_pos white] at dropped

/-- The stripped text of spans is a row of spans with the same tokens. -/
def Strips (keep : Bool) (spans : List Span) : Prop :=
  ∃ others, textOf others = strip keep (textOf spans) ∧ Lexed none others ∧
    kindsOf others = kindsOf spans

theorem Strips.skip {keep later : Bool} {text : List Char} {rest : List Span}
    (h : Strips later rest)
    (whole : strip keep (text ++ textOf rest) = strip later (textOf rest)) :
    Strips keep (⟨text, none⟩ :: rest) := by
  obtain ⟨others, stripped, lexed, kinds⟩ := h
  exact ⟨others, by rw [stripped, textOf_cons, whole], lexed, by rw [kinds, kindsOf_cons]; rfl⟩

theorem Strips.cons {keep later : Bool} {text : List Char} {kind? : Option TokenKind}
    {rest : List Span} (h : Strips later rest) (shorter : List Char)
    (whole : strip keep (text ++ textOf rest) = shorter ++ strip later (textOf rest))
    (reads : Reads (strip later (textOf rest)).head? shorter kind?) :
    Strips keep (⟨text, kind?⟩ :: rest) := by
  obtain ⟨others, stripped, lexed, kinds⟩ := h
  refine ⟨⟨shorter, kind?⟩ :: others, ?_, ⟨?_, lexed⟩, ?_⟩
  · rw [textOf_cons, textOf_cons, stripped, whole]
  · rwa [Option.or_none, stripped]
  · rw [kindsOf_cons, kindsOf_cons, kinds]

theorem strips_whiteSpace {keep : Bool} {c : Char} {rest : List Span}
    (white : Unicode.isWhiteSpace c = true)
    (dropped : keep = false → Droppable (c :: textOf rest))
    (ih : ∀ later, (later = false → Droppable (textOf rest)) → Strips later rest) :
    Strips keep (⟨[c], none⟩ :: rest) := by
  by_cases newline : c = '\n'
  · subst newline
    have after := ih (keeps (textOf rest)) .inr
    cases keep with
    | false => exact after.skip (strip_newline false (textOf rest))
    | true => exact after.cons ['\n'] (strip_newline true (textOf rest)) (.whiteSpace white)
  cases keep with
  | false =>
    have after := ih false fun _ => .inr (dropped_of_white white newline (dropped rfl))
    exact after.skip (strip_false_cons newline)
  | true =>
    have after := ih true (by simp)
    by_cases isReturn : c = '\r' ∧ (textOf rest).head? = some '\n'
    · obtain ⟨rfl, next⟩ := isReturn
      obtain ⟨others, whole⟩ := List.head?_eq_some_iff.1 next
      refine after.skip ?_
      rw [whole]
      exact strip_return others
    · exact after.cons [c] (strip_true_cons newline isReturn) (.whiteSpace white)

theorem strips_lineComment {keep : Bool} {body : List Char} {rest : List Span}
    (inside : '\n' ∉ body) (stop : ∀ d, (textOf rest).head? = some d → d = '\n')
    (ih : ∀ later, (later = false → Droppable (textOf rest)) → Strips later rest) :
    Strips keep (⟨'-' :: '-' :: body, none⟩ :: rest) := by
  cases keep with
  | false =>
    have ends : firstLine (textOf rest) = [] := by
      cases line : firstLine (textOf rest) with
      | nil => rfl
      | cons d others =>
        obtain rfl := stop d (head?_firstLine (by rw [line]; rfl))
        have within := (Text.longest_front (textOf rest)).1 '\n' (by
          rw [← firstLine, line]
          exact List.mem_cons_self)
        cases within
    exact (ih false fun _ => .inl ends).skip
      (strip_false_append (by simpa using inside) (textOf rest))
  | true =>
    obtain ⟨shorter, stripped, within⟩ := exists_strip_line inside (textOf rest)
    refine (ih true (by simp)).cons ('-' :: '-' :: shorter) ?_ (.lineComment within ?_)
    · rw [List.cons_append, List.cons_append, strip_true_cons (by decide) (by simp),
        strip_true_cons (by decide) (by simp), stripped]
      rfl
    · intro d first
      rcases head?_strip (textOf rest) with same | newline
      · exact stop d (same ▸ first)
      · cases newline.symm.trans first
        rfl

theorem strips_blockComment {keep : Bool} {body : List Char} {rest : List Span}
    (inside : ¬ ['*', '/'] <:+: body) (plain : Plain ⟨'/' :: '*' :: (body ++ ['*', '/']), none⟩)
    (dropped : keep = false → Droppable ('/' :: '*' :: (body ++ ['*', '/']) ++ textOf rest))
    (h : Strips true rest) : Strips keep (⟨'/' :: '*' :: (body ++ ['*', '/']), none⟩ :: rest) := by
  cases keep with
  | false => exact absurd (dropped rfl) (not_droppable (by decide) (by simp))
  | true =>
    have lines : ∀ before after, body = before ++ '\n' :: after → '\n' ∉ after →
        keeps (after ++ ['*', '/']) = true := by
      rintro before after rfl last
      exact plain.lines ('/' :: '*' :: before) (after ++ ['*', '/']) (by simp)
        (.inr (by simpa using last))
    have kept : true = false → '\n' ∈ body := by simp
    obtain ⟨shorter, stripped, within, -⟩ := exists_leavesBody (textOf rest) inside lines kept
    refine h.cons ('/' :: '*' :: (shorter ++ ['*', '/'])) ?_ (.blockComment within)
    rw [List.cons_append, List.cons_append, strip_true_cons (by decide) (by simp),
      strip_true_cons (by decide) (by simp), List.append_assoc, List.cons_append,
      List.cons_append, List.nil_append, stripped]
    simp

theorem strips_token {keep : Bool} {text : List Char} {kind : TokenKind} {rest : List Span}
    (reads : Reads (textOf rest).head? text (some kind)) (plain : Plain ⟨text, some kind⟩)
    (dropped : keep = false → Droppable (text ++ textOf rest))
    (h : Strips true rest) : Strips keep (⟨text, some kind⟩ :: rest) := by
  rcases reads.shape with ⟨-, -, -, none?⟩ | ⟨-, -, -, none?, -⟩ | solid
  · cases none?
  · cases none?
  obtain ⟨⟨first, begins, solidFirst⟩, last, ends, solidLast⟩ := solid
  obtain ⟨others, rfl⟩ := List.head?_eq_some_iff.1 begins
  cases keep with
  | false =>
    refine absurd (dropped rfl) (not_droppable solidFirst ?_)
    rintro rfl
    rcases reads.dash with ⟨sign, apart⟩ | ⟨noDash, -⟩
    · cases sign
      exact apart
    · exact absurd rfl noDash
  | true =>
    have apart : last = '-' → (textOf rest).head? ≠ some '-' := by
      rintro rfl
      rcases reads.dash with ⟨-, apart⟩ | ⟨-, noDash⟩
      · exact apart
      · exact absurd ends noDash
    refine h.cons (first :: others) ?_ (reads_strip reads)
    exact strip_append ends solidLast apart
      (fun before after whole => plain.lines before after whole (.inl (by simp)))
      (plain.noReturn (by simp))

/-- Stripping leaves the kinds of the tokens as they are. A line that is dropped from the first
span on has to be a comment line, or what is left of one. -/
theorem strips_of_plain {keep : Bool} {spans : List Span} (h : Lexed none spans)
    (plain : ∀ span ∈ spans, Plain span)
    (dropped : keep = false → Droppable (textOf spans)) : Strips keep spans := by
  -- whether a line is kept is decided anew at its beginning, so the statement is for both values
  induction spans generalizing keep with
  | nil => exact ⟨[], by simp, trivial, rfl⟩
  | cons span rest ih =>
    obtain ⟨reads, later⟩ := h
    have after : ∀ keep, (keep = false → Droppable (textOf rest)) → Strips keep rest :=
      fun keep => ih later fun other member => plain other (List.mem_cons_of_mem span member)
    have within := plain span List.mem_cons_self
    obtain ⟨text, kind?⟩ := span
    rw [Option.or_none] at reads
    cases kind? with
    | some kind => exact strips_token reads within dropped (after true (by simp))
    | none =>
      cases reads with
      | whiteSpace white => exact strips_whiteSpace white dropped after
      | lineComment inside stop => exact strips_lineComment inside stop after
      | blockComment inside =>
        exact strips_blockComment inside within dropped (after true (by simp))

end SqlGrader.Script
