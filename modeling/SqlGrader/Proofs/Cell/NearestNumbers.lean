import SqlGrader.Proofs.Binary64.OrderedRatios
import SqlGrader.Proofs.Cell.Equality

/-!
# Integers and the numbers nearest to them

The number nearest to an integer equals what the integer equals, and the other integers that are
rounded to it. Main statements: these are all (`equals_nearest_iff`), and there is none beside an
integer of 53 bits (`eq_of_ofInt_equals`).
-/

set_option autoImplicit false

namespace SqlGrader

namespace Binary64

/-- Numbers in one place have one magnitude, and one sign unless they are zeros. -/
theorem eq_of_place?_finite {negative : Bool} {m : Magnitude} {x : Binary64}
    (same : x.place? = (finite negative m).place?) :
    ∃ sign, x = .finite sign m ∧ (m.units ≠ 0 → sign = negative) := by
  cases x with
  | nan => cases same
  | infinite sign =>
    have below := m.units_lt_limit
    have place : (if sign then -(Magnitude.limit : Int) else Magnitude.limit) =
        if negative then -(m.units : Int) else m.units := Option.some.inj same
    -- the limit must not be evaluated
    generalize Magnitude.limit = limit at below place
    split at place <;> split at place <;> omega
  | finite sign n =>
    have place : (if sign then -(n.units : Int) else n.units) =
        if negative then -(m.units : Int) else m.units := Option.some.inj same
    have units : n.units = m.units := by
      split at place <;> split at place <;> omega
    refine ⟨sign, by rw [Magnitude.eq_of_units units], fun nonzero => ?_⟩
    cases sign <;> cases negative
    case false.false | true.true => rfl
    all_goals
      simp only [Bool.false_eq_true, if_true, if_false] at place
      omega

theorem ofRatio?_of_ofRatio {negative sign : Bool} {num den : Nat} {m : Magnitude}
    (h : ofRatio negative num den = .finite sign m) :
    Magnitude.ofRatio? num den = some m ∧ negative = sign := by
  unfold ofRatio at h
  split at h
  · rename_i found
    cases h
    exact ⟨found, rfl⟩
  · cases h

/-- No other integer is rounded to an integer of 53 bits. -/
theorem eq_of_ofInt_equals {i j : Int} (small : i.natAbs < 2 ^ 53)
    (same : (ofInt j).equals (ofInt i) = true) : j = i := by
  obtain ⟨m, value, exact, -⟩ := exists_ofInt (Nat.le_of_lt small)
  obtain ⟨place, atJ, atI⟩ := equals_iff.1 same
  rw [value] at atI
  obtain ⟨sign, valueJ, sameSign⟩ := eq_of_place?_finite (atJ.trans atI.symm)
  obtain ⟨found, negative⟩ := ofRatio?_of_ofRatio valueJ
  have itself := m.ofRatio?_units
  rw [exact, ← found, Magnitude.mul_one_eq_shifted, Magnitude.mul_one_eq_shifted] at itself
  have size : j.natAbs = i.natAbs :=
    Magnitude.eq_of_ofRatio?_shifted small (by decide) itself.symm
  by_cases zero : i = 0
  · omega
  · have nonzero : m.units ≠ 0 := by
      rw [exact]
      exact Nat.ne_of_gt (Nat.mul_pos (by omega) Magnitude.one_pos)
    have signs : decide (j < 0) = decide (i < 0) := negative.trans (sameSign nonzero)
    rw [decide_eq_decide] at signs
    omega

theorem neg_ofRatio (negative : Bool) (num den : Nat) :
    (ofRatio negative num den).neg = ofRatio (!negative) num den := by
  unfold ofRatio
  cases Magnitude.ofRatio? num den <;> rfl

/-- The numbers nearest to an integer and to its negative are each other's negatives, but for the
sign of zero. -/
theorem place?_neg_ofInt (i : Int) : (ofInt i).neg.place? = (ofInt (-i)).place? := by
  by_cases zero : i = 0
  · subst zero
    decide +kernel
  · have sign : (!decide (i < 0)) = decide (-i < 0) := by
      rw [← decide_not, decide_eq_decide]
      omega
    rw [ofInt, neg_ofRatio, sign, ofInt, Int.natAbs_neg]

/-- Equality with a number goes by its place. -/
theorem equals_of_place? {x y : Binary64} (same : x.place? = y.place?) (z : Binary64) :
    z.equals x = z.equals y := by
  rw [equals, equals, same]

end Binary64

namespace Cell

/-- A cell is compared with a number by the number in it. -/
theorem equals_float (cell : Cell) (x : Binary64) :
    cell.equals (.float x) = cell.number?.any (·.equals x) := by
  cases cell with
  | integer i =>
    rw [number?, Option.any_some]
    -- the rounded integer must not be evaluated
    generalize rounded : Binary64.ofInt64 i = y
    simp only [equals, rounded]
  | _ => simp [equals, number?]

theorem equals_float_of_place? {x y : Binary64} (same : x.place? = y.place?) (cell : Cell) :
    cell.equals (.float x) = cell.equals (.float y) := by
  simp only [equals_float, Binary64.equals_of_place? same]

/-- A cell that equals the number nearest to an integer equals the integer, or it is another integer
that is rounded to the same number. -/
theorem equals_nearest_iff {cell : Cell} {n : Int64} :
    cell.equals (.float (.ofInt64 n)) = true ↔
      cell.equals (.integer n) = true ∨
        ∃ j, cell = .integer j ∧ j ≠ n ∧ (Binary64.ofInt64 j).equals (.ofInt64 n) = true := by
  rw [equals_float_iff, equals_integer_iff]
  constructor
  · rintro (⟨j, rfl, rounded⟩ | number)
    · by_cases same : j = n
      · exact .inl (.inl (congrArg integer same))
      · exact .inr ⟨j, rfl, same, rounded⟩
    · exact .inl (.inr number)
  · rintro ((rfl | number) | ⟨j, rfl, -, rounded⟩)
    · exact .inl ⟨n, rfl, Binary64.equals_self_iff.2 (Binary64.ofRatio_ne_nan _ _ _)⟩
    · exact .inr number
    · exact .inl ⟨j, rfl, rounded⟩

end Cell

end SqlGrader
