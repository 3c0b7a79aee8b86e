import SqlGrader.Proofs.Token.Places

/-!
# Joined lines

No token and no comment that ends in front of the end of a text reaches over a line feed behind it,
and where a text stands makes no difference but for the places. Main statement: behind a text that
can be lexed and a line feed, another text makes the tokens or the error that it makes by itself,
further on (`tokenize_lines`).
-/

set_option autoImplicit false

namespace SqlGrader

/-- A token that stands further on. -/
def Token.moved (distance : Nat) (t : Token) : Token :=
  ⟨t.kind, t.position + distance⟩

namespace Lexer

theorem tokensOf_moved (position distance : Nat) (spans : List Span) :
    tokensOf (position + distance) spans = (tokensOf position spans).map (·.moved distance) := by
  induction spans generalizing position with
  | nil => rfl
  | cons span rest ih =>
    rw [tokensOf, tokensOf, List.map_append, Nat.add_right_comm, ih]
    cases span.kind? <;> rfl

/-- A line feed stands between any two rows of spans. -/
theorem Lexed.newline {next? : Option Char} {front later : List Span} (h : Lexed none front)
    (behind : Lexed next? later) : Lexed next? (front ++ ⟨['\n'], none⟩ :: later) :=
  lexed_append.2 ⟨h.blank (.inr rfl), .whiteSpace (by decide), behind⟩

theorem byteLength_newline : Text.byteLength ['\n'] = 1 := by decide

theorem toList_lines (a b : String) : (a ++ "\n" ++ b).toList = a.toList ++ '\n' :: b.toList := by
  simp

variable {a b : String} {tokens others : List Token}

theorem tokenize_newline (lexes : tokenize a = .ok tokens) (behind : tokenize b = .ok others) :
    tokenize (a ++ "\n" ++ b) =
      .ok (tokens.dropLast ++ others.map (·.moved (a.utf8ByteSize + 1))) := by
  obtain ⟨front, whole, lexed, rfl⟩ := tokenize_eq_ok_iff.1 lexes
  obtain ⟨later, wholeLater, lexedLater, rfl⟩ := tokenize_eq_ok_iff.1 behind
  refine tokenize_eq_ok_iff.2 ⟨front ++ ⟨['\n'], none⟩ :: later, ?_, lexed.newline lexedLater, ?_⟩
  · rw [toList_lines, ← whole, ← wholeLater]
    simp
  · rw [tokensOf_append, tokensOf, whole, byteLength_newline, Text.byteLength_toList,
      Nat.add_assoc, tokensOf_moved]
    rfl

theorem staysOpen_newline {opening : Opening} {position : Nat} (lexes : tokenize a = .ok tokens)
    (opens : StaysOpen b.toList opening position) :
    StaysOpen (a ++ "\n" ++ b).toList opening (position + (a.utf8ByteSize + 1)) := by
  obtain ⟨front, whole, lexed, -⟩ := tokenize_eq_ok_iff.1 lexes
  obtain ⟨later, last, wholeLater, lexedLater, unclosed, rfl⟩ := opens
  refine ⟨front ++ ⟨['\n'], none⟩ :: later, last, ?_, lexed.newline lexedLater, unclosed, ?_⟩
  · rw [toList_lines, ← whole, wholeLater]
    simp
  · rw [textOf_append, textOf_cons, Text.byteLength_append, Text.byteLength_append,
      byteLength_newline, whole, Text.byteLength_toList]
    omega

/-- Behind a text that can be lexed and a line feed, another text can be lexed exactly if it can be
by itself. Then its tokens follow those of the first one without their end, further on by the bytes
in front; otherwise the error is the one about the second text, with its place moved alike. -/
theorem tokenize_lines (lexes : tokenize a = .ok tokens) :
    ((∃ joined, tokenize (a ++ "\n" ++ b) = .ok joined) ↔ ∃ others, tokenize b = .ok others) ∧
      (∃ front, tokens = front ++ [⟨.eof, a.utf8ByteSize⟩] ∧
        ∀ others, tokenize b = .ok others → tokenize (a ++ "\n" ++ b) =
          .ok (front ++ others.map (·.moved (a.utf8ByteSize + 1)))) ∧
      ∀ e, tokenize b = .error e → ∃ (opening : Opening) (position : Nat) (moved : LexError),
        e = opening.error position ∧ moved = opening.error (position + (a.utf8ByteSize + 1)) ∧
        tokenize (a ++ "\n" ++ b) = .error moved ∧
        e.message = s!"Unterminated {opening.named} at position {position}" ∧
        moved.message =
          s!"Unterminated {opening.named} at position {position + (a.utf8ByteSize + 1)}" := by
  have fails : ∀ e, tokenize b = .error e → ∃ (opening : Opening) (position : Nat),
      e = opening.error position ∧
        tokenize (a ++ "\n" ++ b) = .error (opening.error (position + (a.utf8ByteSize + 1))) := by
    intro e failed
    obtain ⟨opening, position, opens, rfl⟩ := tokenize_eq_error_iff.1 failed
    exact ⟨opening, position, rfl,
      tokenize_eq_error_iff.2 ⟨opening, _, staysOpen_newline lexes opens, rfl⟩⟩
  obtain ⟨front, ended, -⟩ := (laidOut_of_tokenize lexes).ends
  refine ⟨⟨fun ⟨joined, succeeds⟩ => ?_, fun ⟨others, succeeds⟩ => ?_⟩,
    ⟨front, ended, fun others succeeds => ?_⟩, fun e failed => ?_⟩
  · cases behind : tokenize b with
    | ok others => exact ⟨others, rfl⟩
    | error e =>
      obtain ⟨opening, position, -, failed⟩ := fails e behind
      rw [succeeds] at failed
      cases failed
  · exact ⟨_, tokenize_newline lexes succeeds⟩
  · rw [tokenize_newline lexes succeeds, ended, List.dropLast_concat]
  · obtain ⟨opening, position, rfl, moved⟩ := fails e failed
    exact ⟨opening, position, _, rfl, rfl, moved, opening.message_error _, opening.message_error _⟩

/-- A comment of a line hides a quote, and neither it nor the digit in front of the line feed goes
on behind that. -/
theorem tokenize_lines_comment :
    tokenize ("--'\n1" ++ "\n" ++ ".5") =
        .ok [⟨.integer 1, 4⟩, ⟨.dot, 6⟩, ⟨.integer 5, 7⟩, ⟨.eof, 8⟩] ∧
      ∃ e, tokenize ("--'\n1" ++ "\n" ++ "é*/'") = .error e ∧
        e.message = "Unterminated ' at position 10" := by
  have lexes : tokenize "--'\n1" = .ok [⟨.integer 1, 4⟩, ⟨.eof, 5⟩] := by decide +kernel
  have behind : tokenize ".5" = .ok [⟨.dot, 0⟩, ⟨.integer 5, 1⟩, ⟨.eof, 2⟩] := by decide +kernel
  have failed : tokenize "é*/'" = .error (.openQuote '\'' 4) := by decide +kernel
  obtain ⟨-, ⟨front, ended, joins⟩, -⟩ := tokenize_lines lexes
  obtain rfl : [⟨.integer 1, 4⟩] = front := List.append_cancel_right (ended : [_] ++ [_] = _)
  refine ⟨joins _ behind, ?_⟩
  obtain ⟨opening, position, moved, same, -, joined, -, message⟩ :=
    (tokenize_lines lexes).2.2 _ failed
  refine ⟨moved, joined, message.trans ?_⟩
  cases opening <;> cases same
  rfl

end Lexer

end SqlGrader
