import SqlGrader.Statement.Parser
import SqlGrader.Proofs.Token.Lexing

/-!
# The text of a run of tokens

The text that is kept for a part that is not interpreted stands between the first token of the part
and the next one after it. Main statement: `exists_textBetween`.
-/

set_option autoImplicit false

namespace SqlGrader

/-- A part of a text between two byte offsets. -/
def Text.Between (text inside : List Char) (start stop : Nat) : Prop :=
  ∃ before after, text = before ++ (inside ++ after) ∧ start = byteLength before ∧
    stop = byteLength (before ++ inside)

theorem Text.Between.slice?_eq {text inside : List Char} {start stop : Nat}
    (h : Between text inside start stop) : slice? text start stop = some inside := by
  obtain ⟨before, after, rfl, rfl, rfl⟩ := h
  rw [byteLength_append]
  exact slice?_append before inside after

namespace Lexer

/-- A token stands where the spans before it end, and the tokens from it on are those of the other
spans. -/
theorem exists_cut_tokensOf {position : Nat} {spans : List Span} {front rest : List Token}
    {t : Token} (h : tokensOf position spans = front ++ t :: rest) :
    ∃ before after, spans = before ++ after ∧
      t.position = position + Text.byteLength (textOf before) ∧
      tokensOf t.position after = t :: rest := by
  induction spans generalizing position front with
  | nil =>
    cases front with
    | nil =>
      obtain ⟨rfl, rfl⟩ := List.cons.inj h
      exact ⟨[], [], rfl, rfl, rfl⟩
    | cons first front => simp [tokensOf] at h
  | cons span spans ih =>
    have later : ∀ {front : List Token},
        tokensOf (position + Text.byteLength span.text) spans = front ++ t :: rest →
        ∃ before after, span :: spans = before ++ after ∧
          t.position = position + Text.byteLength (textOf before) ∧
          tokensOf t.position after = t :: rest := by
      intro front behind
      obtain ⟨before, after, rfl, place, tokens⟩ := ih behind
      refine ⟨span :: before, after, rfl, ?_, tokens⟩
      rw [place, textOf_cons, Text.byteLength_append, Nat.add_assoc]
    cases made : span.kind? with
    | none =>
      rw [tokensOf, made] at h
      exact later h
    | some kind =>
      cases front with
      | nil =>
        have whole := h
        rw [tokensOf, made] at h
        obtain ⟨rfl, -⟩ := List.cons.inj h
        exact ⟨[], span :: spans, rfl, rfl, whole⟩
      | cons first front =>
        rw [tokensOf, made] at h
        exact later (List.cons.inj h).2

end Lexer

namespace Parser

/-- The text from one token to a later one, without white space at its ends. -/
theorem exists_textBetween {text : String} {tokens front inner rest : List Token}
    {first last : Token} (lexes : tokenize text = .ok tokens)
    (cut : tokens = front ++ first :: (inner ++ last :: rest)) :
    ∃ inside, Text.Between text.toList inside first.position last.position ∧
      textBetween text.toList (first :: (inner ++ last :: rest)) (last :: rest) =
        String.ofList (Unicode.trim inside) := by
  obtain ⟨spans, whole, -, rfl⟩ := Lexer.tokenize_eq_ok_iff.1 lexes
  obtain ⟨before, others, rfl, place, behind⟩ := Lexer.exists_cut_tokensOf cut
  obtain ⟨inside, after, rfl, lastPlace, -⟩ :=
    @Lexer.exists_cut_tokensOf _ _ (first :: inner) _ _ behind
  have between : Text.Between text.toList (Lexer.textOf inside) first.position last.position := by
    refine ⟨Lexer.textOf before, Lexer.textOf after, ?_, ?_, ?_⟩
    · rw [← whole, Lexer.textOf_append, Lexer.textOf_append]
    · rw [place, Nat.zero_add]
    · rw [Text.byteLength_append, lastPlace, place, Nat.zero_add]
  refine ⟨Lexer.textOf inside, between, ?_⟩
  simp only [textBetween, positionOf, between.slice?_eq, Option.getD_some]

end Parser

end SqlGrader
