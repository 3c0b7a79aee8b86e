/-!
# Lines and pieces of a text

Cutting a text at every occurrence of a character, cutting it into lines, and joining pieces
again.
-/

set_option autoImplicit false

namespace SqlGrader.Text

/-- The pieces between the occurrences of a separator; always at least one. -/
def pieces (separator : Char) : List Char → List (List Char)
  | [] => [[]]
  | c :: rest =>
    if c = separator then [] :: pieces separator rest
    else match pieces separator rest with
      | [] => [[c]]
      | first :: others => (c :: first) :: others

/-- Pieces with a separator between each two. -/
def joined (separator : List Char) : List (List Char) → List Char
  | [] => []
  | [last] => last
  | first :: others => first ++ separator ++ joined separator others

/-- A line without the carriage return that may stand before the line feed. -/
def dropCarriageReturn (line : List Char) : List Char :=
  if line.getLast? = some '\r' then line.dropLast else line

/-- The lines of a text. Each ends with a line feed, the last one perhaps at the end of the
text; only a line with a line feed gives up a carriage return before it. -/
def lines (cs : List Char) : List (List Char) :=
  let parts := pieces '\n' cs
  let ended := parts.dropLast.map dropCarriageReturn
  match parts.getLast? with
  | none | some [] => ended
  | some last => ended ++ [last]

theorem pieces_ne_nil (separator : Char) (cs : List Char) : pieces separator cs ≠ [] := by
  cases cs with
  | nil => simp [pieces]
  | cons c rest =>
    simp only [pieces]
    split
    · simp
    · split <;> simp

end SqlGrader.Text
