import SqlGrader.Unicode.WhiteSpace
import SqlGrader.Unicode.Alphabetic

/-!
# Character classes apart

White space, letters and numbers are given by tables of their own. Main statements: white space
is never alphanumeric (`isAlphanumeric_of_isWhiteSpace`), and an ASCII digit is neither white
space nor a letter (`isWhiteSpace_of_isDigit`, `isAlphabetic_of_isDigit`).
-/

set_option autoImplicit false

namespace SqlGrader.Unicode

theorem ascending_whiteSpace : CodePointSet.Ascending whiteSpace.runs := by
  simp [CodePointSet.Ascending, whiteSpace]

/-- A property that is checked for every code point in the table holds of all white space. -/
theorem holds_of_isWhiteSpace (holds : Nat → Bool)
    (checked : ∀ run ∈ whiteSpace.runs, ∀ n ∈ List.range' run.1 (run.2 + 1 - run.1), holds n)
    {c : Char} (h : isWhiteSpace c = true) : holds c.toNat = true := by
  obtain ⟨run, member, low, high⟩ :=
    (CodePointSet.contains_iff_exists_run ascending_whiteSpace).1 h
  exact checked run member c.toNat (List.mem_range'_1.2 ⟨low, by omega⟩)

theorem isAlphanumeric_of_isWhiteSpace {c : Char} (h : isWhiteSpace c = true) :
    isAlphanumeric c = false := by
  have apart := holds_of_isWhiteSpace (fun n =>
    !(CodePointSet.search n alphabetic.runs || CodePointSet.search n numeric.runs))
    (by decide +kernel) h
  exact Bool.not_eq_true' _ ▸ apart

theorem toNat_of_isDigit {c : Char} (h : c.isDigit = true) : 48 ≤ c.toNat ∧ c.toNat ≤ 57 := by
  simp only [Char.isDigit, Bool.and_eq_true, decide_eq_true_eq, UInt32.le_iff_toNat_le] at h
  exact h

theorem isDigit_of_isWhiteSpace {c : Char} (h : isWhiteSpace c = true) : c.isDigit = false := by
  have apart : decide (c.toNat < 48 ∨ 57 < c.toNat) = true :=
    holds_of_isWhiteSpace (fun n => decide (n < 48 ∨ 57 < n)) (by decide +kernel) h
  apply Bool.eq_false_iff.2
  intro digit
  have outside := of_decide_eq_true apart
  have range := toNat_of_isDigit digit
  omega

theorem isWhiteSpace_of_isDigit {c : Char} (h : c.isDigit = true) : isWhiteSpace c = false := by
  apply Bool.eq_false_iff.2
  intro white
  rw [isDigit_of_isWhiteSpace white] at h
  cases h

/-- The first letter is `A`. -/
theorem isAlphabetic_of_toNat_lt {c : Char} (h : c.toNat < 0x41) : isAlphabetic c = false :=
  if_pos h

theorem isAlphabetic_of_isDigit {c : Char} (h : c.isDigit = true) : isAlphabetic c = false :=
  isAlphabetic_of_toNat_lt (by have := toNat_of_isDigit h; omega)

end SqlGrader.Unicode
