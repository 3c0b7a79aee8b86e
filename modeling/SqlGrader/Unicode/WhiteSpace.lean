import SqlGrader.Unicode.CodePoints

/-!
# White space

The Unicode property `White_Space`, and trimming by it.
-/

set_option autoImplicit false

namespace SqlGrader.Unicode

/-- The characters with the property `White_Space`. -/
def whiteSpace : CodePointSet := ⟨
  [(0x9, 0xD), (0x20, 0x20), (0x85, 0x85), (0xA0, 0xA0), (0x1680, 0x1680), (0x2000, 0x200A),
   (0x2028, 0x2029), (0x202F, 0x202F), (0x205F, 0x205F), (0x3000, 0x3000)]⟩

/-- Whether a character is white space; wider than the ASCII class of the core library. -/
def isWhiteSpace (c : Char) : Bool :=
  whiteSpace.contains c

/-- Drops the white space at the start. -/
def trimStart (cs : List Char) : List Char :=
  cs.dropWhile isWhiteSpace

/-- Drops the white space at both ends. -/
def trim (cs : List Char) : List Char :=
  (trimStart (trimStart cs).reverse).reverse

/-- What is left of a text after trimming its start does not begin with white space. -/
theorem trimStart_eq_cons {cs : List Char} {c : Char} {rest : List Char}
    (h : trimStart cs = c :: rest) : isWhiteSpace c = false := by
  induction cs with
  | nil => cases h
  | cons d ds ih =>
    by_cases hd : isWhiteSpace d
    · exact ih (by simpa [trimStart, hd] using h)
    · rw [trimStart, List.dropWhile_cons, if_neg hd] at h
      cases h
      simpa using hd

end SqlGrader.Unicode
