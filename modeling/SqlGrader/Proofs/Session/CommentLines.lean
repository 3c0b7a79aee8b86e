import SqlGrader.Session.Script

/-!
# Dropping comment lines

A piece of a script is cleaned line by line. `strip` does the same in one pass over the
characters: it keeps or drops a line as a whole and the line feed with it. Main statement:
cleaning is stripping and then trimming (`cleaned_eq_trim_strip`).
-/

set_option autoImplicit false

namespace SqlGrader.Script

/-- The characters up to the next line feed. -/
def firstLine (cs : List Char) : List Char :=
  cs.takeWhile (· ≠ '\n')

/-- Whether the line that begins here is kept. -/
def keeps (cs : List Char) : Bool :=
  !isCommentLine (firstLine cs)

/-- A text without its comment lines and without the carriage returns before line feeds; `keep`
says whether the line it begins in is kept. -/
def strip : Bool → List Char → List Char
  | _, [] => []
  | keep, c :: rest =>
    if c = '\n' then
      if keep then '\n' :: strip (keeps rest) rest else strip (keeps rest) rest
    else if keep then
      if c = '\r' ∧ rest.head? = some '\n' then strip keep rest else c :: strip keep rest
    else strip keep rest

@[simp] theorem strip_nil (keep : Bool) : strip keep [] = [] := by
  cases keep <;> rfl

theorem strip_newline (keep : Bool) (rest : List Char) :
    strip keep ('\n' :: rest) = (if keep then ['\n'] else []) ++ strip (keeps rest) rest := by
  cases keep <;> simp [strip]

theorem strip_false_cons {c : Char} {rest : List Char} (inside : c ≠ '\n') :
    strip false (c :: rest) = strip false rest := by
  simp [strip, inside]

theorem strip_true_cons {c : Char} {rest : List Char} (inside : c ≠ '\n')
    (kept : ¬ (c = '\r' ∧ rest.head? = some '\n')) :
    strip true (c :: rest) = c :: strip true rest := by
  simp only [strip, inside, kept, if_true, if_false]

theorem strip_return (rest : List Char) :
    strip true ('\r' :: '\n' :: rest) = strip true ('\n' :: rest) := by
  simp [strip]

/-! ## First lines -/

theorem firstLine_append {line : List Char} (inside : '\n' ∉ line) (rest : List Char) :
    firstLine (line ++ rest) = line ++ firstLine rest := by
  apply List.takeWhile_append_of_pos
  intro d member
  have different : d ≠ '\n' := by rintro rfl; exact inside member
  simpa using different

theorem firstLine_append_newline {line : List Char} (inside : '\n' ∉ line) (rest : List Char) :
    firstLine (line ++ '\n' :: rest) = line := by
  rw [firstLine_append inside]
  simp [firstLine]

theorem firstLine_cons {c : Char} (inside : c ≠ '\n') (rest : List Char) :
    firstLine (c :: rest) = c :: firstLine rest :=
  firstLine_append (by simpa using inside.symm : '\n' ∉ [c]) rest

theorem head?_firstLine {c : Char} {cs : List Char} (h : (firstLine cs).head? = some c) :
    cs.head? = some c := by
  cases cs with
  | nil => exact h
  | cons d rest =>
    by_cases newline : d = '\n'
    · simp [firstLine, newline] at h
    · simpa [firstLine_cons newline] using h

/-! ## Comment lines -/

theorem trimStart_append (line more : List Char) :
    Unicode.trimStart (line ++ more) =
      if Unicode.trimStart line = [] then Unicode.trimStart more
      else Unicode.trimStart line ++ more := by
  unfold Unicode.trimStart
  rw [List.dropWhile_append]
  simp

/-- What is added behind a line that is not blank makes no comment line of it, unless it
completes the second dash. -/
theorem isCommentLine_append {line more : List Char}
    (apart : line.getLast? = some '-' → more.head? ≠ some '-')
    (blank : Unicode.trimStart line = [] → isCommentLine more = false) :
    isCommentLine (line ++ more) = isCommentLine line := by
  unfold isCommentLine
  rw [trimStart_append]
  split
  · rename_i none?
    rw [none?]
    exact blank none?
  · rename_i some?
    have last : line.getLast? = (Unicode.trimStart line).getLast? := by
      obtain ⟨front, whole⟩ : ∃ front, front ++ Unicode.trimStart line = line :=
        List.dropWhile_suffix Unicode.isWhiteSpace
      have same := congrArg List.getLast? whole
      rw [List.getLast?_append, List.getLast?_eq_some_getLast some?, Option.some_or] at same
      rw [← same, List.getLast?_eq_some_getLast some?]
    cases rest : Unicode.trimStart line with
    | nil => exact absurd rest some?
    | cons d ds =>
      cases ds with
      | nil =>
        rw [rest] at last
        cases more with
        | nil => rfl
        | cons e es =>
          have different : '-' = d → '-' ≠ e := by
            rintro rfl rfl
            exact apart last rfl
          simpa [List.isPrefixOf] using different
      | cons e es => simp [List.isPrefixOf]

theorem isCommentLine_dropCarriageReturn (line : List Char) :
    isCommentLine (Text.dropCarriageReturn line) = isCommentLine line := by
  unfold Text.dropCarriageReturn
  split
  · rename_i last
    obtain ⟨front, rfl⟩ := List.getLast?_eq_some_iff.1 last
    rw [List.dropLast_concat]
    exact (isCommentLine_append (by simp) fun _ => by decide).symm
  · rfl

/-! ## Lines -/

theorem pieces_cons_of_ne {separator c : Char} {rest : List Char} (h : c ≠ separator) :
    Text.pieces separator (c :: rest) = (Text.pieces separator rest).modifyHead (c :: ·) := by
  simp only [Text.pieces, h, if_false]
  cases pieces : Text.pieces separator rest with
  | nil => exact absurd pieces (Text.pieces_ne_nil separator rest)
  | cons first others => rfl

/-- The lines that are kept, each with a line feed behind it unless it is the last one. -/
def keptLines (keep : Bool) : List (List Char) → List Char
  | [] => []
  | [last] => if keep then last else []
  | line :: next :: others =>
    (if keep then Text.dropCarriageReturn line ++ ['\n'] else []) ++
      keptLines (!isCommentLine next) (next :: others)

theorem exists_pieces (cs : List Char) :
    ∃ others, Text.pieces '\n' cs = firstLine cs :: others := by
  induction cs with
  | nil => exact ⟨[], rfl⟩
  | cons c rest ih =>
    obtain ⟨others, pieces⟩ := ih
    by_cases newline : c = '\n'
    · subst newline
      exact ⟨Text.pieces '\n' rest, by simp [Text.pieces, firstLine]⟩
    · refine ⟨others, ?_⟩
      rw [pieces_cons_of_ne newline, pieces]
      simp [firstLine, newline]

theorem keptLines_false (line other : List Char) (others : List (List Char)) :
    keptLines false (line :: others) = keptLines false (other :: others) := by
  cases others <;> rfl

theorem dropCarriageReturn_cons_cons (c d : Char) (line : List Char) :
    Text.dropCarriageReturn (c :: d :: line) = c :: Text.dropCarriageReturn (d :: line) := by
  unfold Text.dropCarriageReturn
  rw [List.getLast?_cons_cons, List.dropLast_cons_cons]
  split <;> rfl

theorem keptLines_cons_cons (c d : Char) (line : List Char) (others : List (List Char)) :
    keptLines true ((c :: d :: line) :: others) = c :: keptLines true ((d :: line) :: others) := by
  cases others with
  | nil => rfl
  | cons next others => simp [keptLines, dropCarriageReturn_cons_cons]

theorem strip_eq_keptLines (keep : Bool) (cs : List Char) :
    strip keep cs = keptLines keep (Text.pieces '\n' cs) := by
  induction cs generalizing keep with
  | nil => simp [Text.pieces, keptLines]
  | cons c rest ih =>
    obtain ⟨others, pieces⟩ := exists_pieces rest
    by_cases newline : c = '\n'
    · subst newline
      rw [strip_newline, ih, keeps]
      simp only [Text.pieces, if_true, pieces]
      cases keep <;> simp [keptLines, Text.dropCarriageReturn]
    · rw [pieces_cons_of_ne newline, pieces, List.modifyHead_cons]
      cases keep with
      | false => rw [strip_false_cons newline, ih, pieces, keptLines_false]
      | true =>
        cases rest with
        | nil =>
          obtain rfl : [] = others := (List.cons.inj pieces).2
          simp [strip, newline, keptLines, firstLine]
        | cons d rest =>
          by_cases ends : d = '\n'
          · subst ends
            obtain ⟨-, rfl⟩ : _ ∧ Text.pieces '\n' rest = others := by
              simpa [Text.pieces] using pieces
            have blank : firstLine ('\n' :: rest) = [] := rfl
            obtain ⟨next, line⟩ := exists_pieces rest
            have later := ih true
            rw [pieces, blank, line] at later
            rw [blank, line]
            by_cases isReturn : c = '\r'
            · subst isReturn
              rw [strip_return, later]
              simp [keptLines, Text.dropCarriageReturn]
            · rw [strip_true_cons newline (by simp [isReturn]), later]
              simp [keptLines, Text.dropCarriageReturn, isReturn]
          · have first : firstLine (d :: rest) = d :: firstLine rest := by simp [firstLine, ends]
            rw [strip_true_cons newline (by simp [ends]), ih, pieces, first, keptLines_cons_cons]

/-- The lines that line feeds cut a text into; nothing behind the last line feed is no line. -/
def linesOf : List (List Char) → List (List Char)
  | [] => []
  | [last] => if last = [] then [] else [last]
  | line :: next :: others => Text.dropCarriageReturn line :: linesOf (next :: others)

theorem lines_eq_linesOf (cs : List Char) : Text.lines cs = linesOf (Text.pieces '\n' cs) := by
  unfold Text.lines
  generalize Text.pieces '\n' cs = parts
  induction parts with
  | nil => rfl
  | cons line others ih =>
    cases others with
    | nil => cases line <;> rfl
    | cons next others =>
      rw [linesOf, ← ih]
      dsimp only
      rw [List.dropLast_cons_cons, List.getLast?_cons_cons, List.map_cons]
      split <;> rfl

/-- Kept lines are the joined ones but for line feeds at the end. -/
theorem exists_joined (line : List Char) (others : List (List Char)) :
    ∃ n, keptLines (!isCommentLine line) (line :: others) =
      Text.joined ['\n'] ((linesOf (line :: others)).filter fun line => !isCommentLine line) ++
        List.replicate n '\n' := by
  induction others generalizing line with
  | nil =>
    refine ⟨0, ?_⟩
    cases comment : isCommentLine line <;> cases line <;>
      simp [keptLines, linesOf, comment, Text.joined]
  | cons next others ih =>
    obtain ⟨n, later⟩ := ih next
    rw [keptLines, later, linesOf]
    cases comment : isCommentLine line with
    | true =>
      refine ⟨n, ?_⟩
      rw [List.filter_cons_of_neg (by simp [isCommentLine_dropCarriageReturn, comment])]
      simp
    | false =>
      rw [List.filter_cons_of_pos (by simp [isCommentLine_dropCarriageReturn, comment])]
      cases (linesOf (next :: others)).filter fun line => !isCommentLine line with
      | nil => exact ⟨n + 1, by simp [Text.joined, List.replicate_succ]⟩
      | cons first kept => exact ⟨n, by simp [Text.joined]⟩

theorem trimStart_newlines (n : Nat) (cs : List Char) :
    Unicode.trimStart (List.replicate n '\n' ++ cs) = Unicode.trimStart cs := by
  induction n with
  | zero => rfl
  | succ n ih =>
    rw [List.replicate_succ, List.cons_append, Unicode.trimStart,
      List.dropWhile_cons_of_pos (by decide)]
    exact ih

theorem trim_append_newlines (cs : List Char) (n : Nat) :
    Unicode.trim (cs ++ List.replicate n '\n') = Unicode.trim cs := by
  unfold Unicode.trim
  rw [trimStart_append]
  split
  · rename_i blank
    have newlines := trimStart_newlines n []
    rw [List.append_nil] at newlines
    rw [newlines, blank]
    rfl
  · rw [List.reverse_append, List.reverse_replicate, trimStart_newlines]

/-- Cleaning is stripping and then trimming. -/
theorem cleaned_eq_trim_strip (cs : List Char) :
    cleaned cs = Unicode.trim (strip (keeps cs) cs) := by
  obtain ⟨others, pieces⟩ := exists_pieces cs
  obtain ⟨n, kept⟩ := exists_joined (firstLine cs) others
  rw [strip_eq_keptLines, pieces, keeps, kept, trim_append_newlines, cleaned, lines_eq_linesOf,
    pieces]

end SqlGrader.Script
