import SqlGrader.Proofs.Session.ScriptCut

/-!
# Scripts that are put together

The statements of a text with a semicolon in it are those in front of the semicolon and those
behind it, and a blank line or a comment line in front of a text adds none. Main statements:
`fragments_append_semicolon`, `fragments_line_append`, and what is left of a piece that begins
with something else than white space and dashes (`exists_cleaned_append`).
-/

set_option autoImplicit false

namespace SqlGrader.Script

def fragments (cs : List Char) : List (List Char) :=
  ((Text.pieces ';' cs).map cleaned).filter (· ≠ [])

theorem split_eq (script : String) : split script = (fragments script.toList).map String.ofList :=
  rfl

theorem fragments_nil : fragments [] = [] := by
  decide

theorem pieces_append_separator (separator : Char) (front rest : List Char) :
    Text.pieces separator (front ++ separator :: rest) =
      Text.pieces separator front ++ Text.pieces separator rest := by
  induction front with
  | nil => simp [Text.pieces]
  | cons c front ih =>
    by_cases cut : c = separator
    · subst cut
      rw [List.cons_append, Text.pieces, if_pos rfl, ih, Text.pieces, if_pos rfl]
      rfl
    · rw [List.cons_append, pieces_cons_of_ne cut, pieces_cons_of_ne cut, ih]
      cases inside : Text.pieces separator front with
      | nil => exact absurd inside (Text.pieces_ne_nil separator front)
      | cons first others => rfl

/-- A semicolon stands between the statements in front of it and those behind it. -/
theorem fragments_append_semicolon (front rest : List Char) :
    fragments (front ++ ';' :: rest) = fragments front ++ fragments rest := by
  simp [fragments, pieces_append_separator]

/-! ## Lines in front -/

theorem trim_newline (cs : List Char) : Unicode.trim ('\n' :: cs) = Unicode.trim cs := by
  have dropped : Unicode.trimStart ('\n' :: cs) = Unicode.trimStart cs := by
    rw [Unicode.trimStart, List.dropWhile_cons_of_pos (by decide)]
    rfl
  rw [Unicode.trim, Unicode.trim, dropped]

/-- A line without anything, or with a comment only, leaves nothing in front of a piece. -/
theorem cleaned_line_append {line : List Char} (inside : '\n' ∉ line)
    (nothing : line = [] ∨ isCommentLine line = true) (rest : List Char) :
    cleaned (line ++ '\n' :: rest) = cleaned rest := by
  have first := firstLine_append_newline inside rest
  rw [cleaned_eq_trim_strip, cleaned_eq_trim_strip, keeps, first]
  rcases nothing with rfl | comment
  · have kept : isCommentLine [] = false := by decide
    rw [kept, List.nil_append, Bool.not_false, strip_newline, if_pos rfl]
    exact trim_newline _
  · rw [comment, Bool.not_true, strip_false_append inside, strip_newline]
    rfl

theorem fragments_line_append {line : List Char} (inside : '\n' ∉ line) (noCut : ';' ∉ line)
    (nothing : line = [] ∨ isCommentLine line = true) (rest : List Char) :
    fragments (line ++ '\n' :: rest) = fragments rest := by
  have apart : ';' ∉ line ++ ['\n'] := by simpa using noCut
  have joined : line ++ '\n' :: rest = (line ++ ['\n']) ++ rest := by simp
  rw [fragments, joined, pieces_append apart, fragments]
  cases pieces : Text.pieces ';' rest with
  | nil => exact absurd pieces (Text.pieces_ne_nil ';' rest)
  | cons first others =>
    have same := cleaned_line_append inside nothing first
    rw [List.modifyHead_cons, List.map_cons, List.map_cons, ← same]
    simp

/-! ## Pieces with a beginning -/

/-- One line that cutting and cleaning leave as it is, whatever stands behind it. -/
structure Beginning (front : List Char) : Prop where
  solid : Lexer.Solid front
  noDash : '-' ∉ front
  oneLine : '\n' ∉ front
  noCut : ';' ∉ front

theorem exists_trim_append {front : List Char} (solid : Lexer.Solid front) (rest : List Char) :
    ∃ more, Unicode.trim (front ++ rest) = front ++ more := by
  obtain ⟨⟨c, first, notWhite⟩, last, ends, lastNotWhite⟩ := solid
  obtain ⟨tail, rfl⟩ := List.head?_eq_some_iff.1 first
  have start : Unicode.trimStart (c :: tail ++ rest) = c :: tail ++ rest := by
    rw [List.cons_append, Unicode.trimStart, List.dropWhile_cons_of_neg (by simp [notWhite])]
  obtain ⟨before, whole⟩ := List.getLast?_eq_some_iff.1 ends
  rw [Unicode.trim, start, List.reverse_append, whole, List.reverse_concat, trimStart_append]
  split
  · refine ⟨[], ?_⟩
    rw [Unicode.trimStart, List.dropWhile_cons_of_neg (by simp [lastNotWhite])]
    simp
  · refine ⟨(Unicode.trimStart rest.reverse).reverse, ?_⟩
    simp

theorem exists_cleaned_append {front : List Char} (h : Beginning front) (rest : List Char) :
    ∃ more, cleaned (front ++ rest) = front ++ more := by
  obtain ⟨solid, noDash, oneLine, -⟩ := h
  have dash : ∀ {d : Char}, d ∈ front → d ≠ '-' := fun member same => noDash (same ▸ member)
  have kept : keeps (front ++ rest) = true := by
    obtain ⟨c, first, notWhite⟩ := solid.first
    obtain ⟨tail, rfl⟩ := List.head?_eq_some_iff.1 first
    exact keeps_cons notWhite fun isDash => absurd isDash (dash List.mem_cons_self)
  have stripped : strip true (front ++ rest) = front ++ strip true rest := by
    obtain ⟨last, ends, lastNotWhite⟩ := solid.last
    refine strip_append ends lastNotWhite ?_ ?_ ?_
    · exact fun isDash => absurd isDash (dash (List.mem_of_getLast? ends))
    · intro before after whole
      exact absurd (by simp [whole]) oneLine
    · intro found
      exact oneLine (found.mem (by simp))
  rw [cleaned_eq_trim_strip, kept, stripped]
  exact exists_trim_append solid _

/-- A text with a beginning has a statement with the same beginning first. -/
theorem exists_fragments_append {front : List Char} (h : Beginning front) (rest : List Char) :
    ∃ more others, fragments (front ++ rest) = (front ++ more) :: others ∧
      (';' ∉ rest → others = []) := by
  rw [fragments, pieces_append h.noCut]
  cases pieces : Text.pieces ';' rest with
  | nil => exact absurd pieces (Text.pieces_ne_nil ';' rest)
  | cons first others =>
    obtain ⟨more, same⟩ := exists_cleaned_append h first
    obtain ⟨c, begins, -⟩ := h.solid.first
    have some? : front ++ more ≠ [] := by
      rintro nothing
      rw [(List.append_eq_nil_iff.1 nothing).1] at begins
      cases begins
    rw [List.modifyHead_cons, List.map_cons, same, List.filter_cons_of_pos (by simp [some?])]
    refine ⟨more, _, rfl, fun noCut => ?_⟩
    have whole : Text.pieces ';' rest = [rest] := by
      have alone := pieces_append noCut []
      rwa [List.append_nil, Text.pieces, List.modifyHead_cons, List.append_nil] at alone
    obtain ⟨-, rfl⟩ := List.cons.inj (pieces.symm.trans whole)
    rfl

end SqlGrader.Script
