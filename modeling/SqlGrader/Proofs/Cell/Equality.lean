import SqlGrader.Cell
import SqlGrader.Proofs.Binary64.Integers

/-!
# Equality of cells

Equality is symmetric, and every cell but not-a-number equals itself. It is not transitive: a number
equals every integer that is rounded to it. Main statement: this is the only way in which a value
can equal two cells that are not equal (`integers_of_equals_both`), and it takes integers beyond
`2 ^ 53` (`eq_of_equals_float`).
-/

set_option autoImplicit false

namespace SqlGrader

namespace Binary64

theorem equals_iff {x y : Binary64} :
    x.equals y = true ↔ ∃ place, x.place? = some place ∧ y.place? = some place := by
  unfold equals
  split
  · rename_i a b first second
    rw [first, second, beq_iff_eq]
    constructor
    · rintro rfl
      exact ⟨a, rfl, rfl⟩
    · rintro ⟨place, same, same'⟩
      rw [Option.some.inj same, Option.some.inj same']
  · rename_i nowhere
    refine iff_of_false (by simp) ?_
    rintro ⟨place, first, second⟩
    exact nowhere place place first second

theorem equals_comm (x y : Binary64) : x.equals y = y.equals x := by
  rw [Bool.eq_iff_iff, equals_iff, equals_iff]
  simp only [and_comm]

/-- Numbers that equal a third one are equal. -/
theorem equals_of_equals {x y z : Binary64} (first : x.equals z = true)
    (second : y.equals z = true) : x.equals y = true := by
  obtain ⟨place, atX, atZ⟩ := equals_iff.1 first
  obtain ⟨other, atY, atZ'⟩ := equals_iff.1 second
  obtain rfl : place = other := Option.some.inj (atZ.symm.trans atZ')
  exact equals_iff.2 ⟨place, atX, atY⟩

theorem equals_self_iff {x : Binary64} : x.equals x = true ↔ x ≠ .nan := by
  cases x <;> simp [equals, place?]

end Binary64

namespace Cell

theorem equals_comm (a b : Cell) : a.equals b = b.equals a := by
  cases a <;> cases b <;> simp [equals, Binary64.equals_comm, Bool.beq_comm]

theorem equals_self_iff {a : Cell} : a.equals a = true ↔ a ≠ .float .nan := by
  cases a <;> simp [equals, Binary64.equals_self_iff]

theorem equals_null_iff {a : Cell} : a.equals .null = true ↔ a = .null := by
  cases a <;> simp [equals]

theorem equals_text_iff {a : Cell} {s : String} : a.equals (.text s) = true ↔ a = .text s := by
  cases a <;> simp [equals]

theorem equals_integer_iff {a : Cell} {i : Int64} :
    a.equals (.integer i) = true ↔
      a = .integer i ∨ ∃ x, a = .float x ∧ x.equals (.ofInt64 i) = true := by
  cases a <;> simp [equals, Binary64.equals_comm]

theorem equals_float_iff {a : Cell} {x : Binary64} :
    a.equals (.float x) = true ↔
      (∃ i, a = .integer i ∧ (Binary64.ofInt64 i).equals x = true) ∨
        ∃ y, a = .float y ∧ y.equals x = true := by
  cases a <;> simp [equals]

/-- A value equals two cells that are not equal only if it is a number to which two integers are
rounded. -/
theorem integers_of_equals_both {a b value : Cell} (first : a.equals value = true)
    (second : b.equals value = true) (apart : a.equals b = false) :
    ∃ i j x, a = .integer i ∧ b = .integer j ∧ value = .float x := by
  have different : a.equals b ≠ true := by simp [apart]
  cases value with
  | null =>
    rw [equals_null_iff] at first second
    subst first second
    exact absurd rfl different
  | text s =>
    rw [equals_text_iff] at first second
    subst first second
    exact absurd (equals_text_iff.2 rfl) different
  | integer i =>
    rcases equals_integer_iff.1 first with rfl | ⟨x, rfl, equalX⟩
    · exact absurd (equals_comm _ _ ▸ second) different
    rcases equals_integer_iff.1 second with rfl | ⟨y, rfl, equalY⟩
    · exact absurd first different
    · exact absurd (Binary64.equals_of_equals equalX equalY) different
  | float x =>
    rcases equals_float_iff.1 first with ⟨i, rfl, equalA⟩ | ⟨y, rfl, equalA⟩ <;>
      rcases equals_float_iff.1 second with ⟨j, rfl, equalB⟩ | ⟨z, rfl, equalB⟩
    · exact ⟨i, j, x, rfl, rfl, rfl⟩
    · exact absurd (Binary64.equals_of_equals equalA equalB) different
    · exact absurd (Binary64.equals_of_equals equalB equalA) different
    · exact absurd (Binary64.equals_of_equals equalA equalB) different

/-- Integers of up to `2 ^ 53` are told apart by the numbers that they equal. -/
theorem eq_of_equals_float {i j : Int64} {x : Binary64} (smallI : i.toInt.natAbs ≤ 2 ^ 53)
    (smallJ : j.toInt.natAbs ≤ 2 ^ 53) (first : (integer i).equals (.float x) = true)
    (second : (integer j).equals (.float x) = true) : i = j := by
  have placed : ∀ k : Int64, k.toInt.natAbs ≤ 2 ^ 53 →
      (Binary64.ofInt64 k).place? = some (k.toInt * Magnitude.one) := by
    intro k small
    obtain ⟨m, value, exact, -⟩ := Binary64.exists_ofInt small
    rw [Binary64.ofInt64, value, Binary64.place?, exact, Int.natCast_mul]
    by_cases negative : k.toInt < 0
    · have size : (k.toInt.natAbs : Int) = -k.toInt := Int.ofNat_natAbs_of_nonpos (by omega)
      rw [if_pos (by simpa using negative), size, Int.neg_mul, Int.neg_neg]
    · have size : (k.toInt.natAbs : Int) = k.toInt := Int.natAbs_of_nonneg (by omega)
      rw [if_neg (by simpa using negative), size]
  obtain ⟨place, atI, atJ⟩ := Binary64.equals_iff.1 (Binary64.equals_of_equals first second)
  rw [placed i smallI] at atI
  rw [placed j smallJ, ← atI] at atJ
  have positive : (0 : Int) < Magnitude.one := Int.ofNat_lt.2 Magnitude.one_pos
  have same : i.toInt = j.toInt :=
    (Int.eq_of_mul_eq_mul_right (by omega) (Option.some.inj atJ)).symm
  exact Int64.toInt_inj.1 same

end Cell

end SqlGrader
