import Mathlib.Algebra.Group.Nat.Defs
import SqlGrader.Binary64.Format

/-!
# Decimal digits

A factor of ten is a zero at the end of the digits. Main statements: the digits of a multiple of
a power of ten (`toDigits_mul_pow`), and what is left of the digits of a number without the
zeros at their end (`dropTrailingZeros_toDigits`).
-/

set_option autoImplicit false

namespace SqlGrader.Text

theorem isDigit_of_mem_toDigits {n : Nat} {c : Char} (h : c ∈ Nat.toDigits 10 n) :
    c.isDigit = true :=
  Nat.isDigit_of_mem_toDigits (by decide) (by decide) h

theorem toDigits_mul_ten {n : Nat} (positive : 0 < n) :
    Nat.toDigits 10 (n * 10) = Nat.toDigits 10 n ++ ['0'] := by
  have split := Nat.toDigits_append_toDigits (b := 10) (by decide) positive (d := 0) (by decide)
  rw [Nat.toDigits_zero, Nat.add_zero, Nat.mul_comm] at split
  exact split.symm

/-- A power of ten is a run of zeros behind the digits. -/
theorem toDigits_mul_pow {n : Nat} (positive : 0 < n) (k : Nat) :
    Nat.toDigits 10 (n * 10 ^ k) = Nat.toDigits 10 n ++ List.replicate k '0' := by
  induction k with
  | zero => simp
  | succ k ih =>
    have larger : 0 < n * 10 ^ k := Nat.mul_pos positive (Nat.pow_pos (by decide))
    rw [Nat.pow_succ, ← Nat.mul_assoc, toDigits_mul_ten larger, ih, List.append_assoc,
      ← List.replicate_succ']

theorem dropTrailingZeros_append_zero (digits : List Char) :
    NumberFormat.dropTrailingZeros (digits ++ ['0']) = NumberFormat.dropTrailingZeros digits := by
  simp [NumberFormat.dropTrailingZeros]

theorem dropTrailingZeros_append (digits : List Char) {c : Char} (nonzero : c ≠ '0') :
    NumberFormat.dropTrailingZeros (digits ++ [c]) = digits ++ [c] := by
  simp [NumberFormat.dropTrailingZeros, nonzero]

/-- The digits of a number without the zeros at their end are those of the number without its
factors of ten. -/
theorem dropTrailingZeros_toDigits {n : Nat} (positive : 0 < n) :
    ∃ significant k, 0 < significant ∧ n = significant * 10 ^ k ∧
      NumberFormat.dropTrailingZeros (Nat.toDigits 10 n) = Nat.toDigits 10 significant := by
  induction n using Nat.strongRecOn with
  | ind n ih =>
    by_cases divides : n % 10 = 0
    · obtain ⟨tenth, rfl⟩ : ∃ tenth, n = tenth * 10 := ⟨n / 10, by omega⟩
      obtain ⟨significant, k, nonzero, value, digits⟩ := ih tenth (by omega) (by omega)
      refine ⟨significant, k + 1, nonzero, by rw [value, Nat.pow_succ, Nat.mul_assoc], ?_⟩
      rw [toDigits_mul_ten (by omega), dropTrailingZeros_append_zero, digits]
    · refine ⟨n, 0, positive, by simp, ?_⟩
      have last : Nat.digitChar (n % 10) ≠ '0' := by
        have bound : n % 10 < 10 := Nat.mod_lt n (by decide)
        rw [ne_eq, Nat.digitChar_eq_zero]
        exact divides
      rw [Nat.toDigits_eq_if (by decide)]
      split
      · rename_i small
        rw [Nat.mod_eq_of_lt small] at last
        exact dropTrailingZeros_append [] last
      · exact dropTrailingZeros_append _ last

end SqlGrader.Text
