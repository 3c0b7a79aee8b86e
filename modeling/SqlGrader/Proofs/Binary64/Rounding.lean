import SqlGrader.Binary64.Basic

/-!
# Rounding to a magnitude

The nearest magnitude depends on the value of a ratio only, and a magnitude is nearest to itself.
Main statements: `ofRatio?_eq_of_cross`, `ofRatio?_units`.
-/

set_option autoImplicit false

namespace SqlGrader

theorem roundHalfEven_scale {scale : Nat} (positive : 0 < scale) (num den : Nat) :
    roundHalfEven (scale * num) (scale * den) = roundHalfEven num den := by
  have twice : 2 * (scale * num % (scale * den)) = scale * (2 * (num % den)) := by
    rw [Nat.mul_mod_mul_left, Nat.mul_left_comm]
  simp only [roundHalfEven, Nat.mul_div_mul_left num den positive, twice,
    Nat.mul_lt_mul_left positive]

/-- An integer is nearest to itself. -/
theorem roundHalfEven_mul (n : Nat) {den : Nat} (positive : 0 < den) :
    roundHalfEven (n * den) den = n := by
  simp [roundHalfEven, Nat.mul_div_cancel n positive, positive]

namespace Magnitude

theorem exponentOf_scale {scale : Nat} (positive : 0 < scale) (num den : Nat) :
    exponentOf (scale * num) (scale * den) = exponentOf num den := by
  rw [exponentOf, exponentOf, Nat.mul_div_mul_left num den positive]

theorem significandOf_scale {scale : Nat} (positive : 0 < scale) (num den : Nat) :
    significandOf (scale * num) (scale * den) = significandOf num den := by
  have shifted : (scale * den) <<< exponentOf num den = scale * den <<< exponentOf num den := by
    rw [Nat.shiftLeft_eq, Nat.shiftLeft_eq, Nat.mul_assoc]
  rw [significandOf, exponentOf_scale positive, shifted, roundHalfEven_scale positive,
    significandOf]

theorem ofRatio?_scale {scale : Nat} (positive : 0 < scale) (num den : Nat) :
    ofRatio? (scale * num) (scale * den) = ofRatio? num den := by
  simp only [ofRatio?, significandOf_scale positive, exponentOf_scale positive]

/-- Equal ratios are rounded to the same magnitude. -/
theorem ofRatio?_eq_of_cross {num den num' den' : Nat} (positive : 0 < den) (positive' : 0 < den')
    (cross : num * den' = num' * den) : ofRatio? num den = ofRatio? num' den' :=
  calc ofRatio? num den
    _ = ofRatio? (den' * num) (den' * den) := (ofRatio?_scale positive' num den).symm
    _ = ofRatio? (den * num') (den * den') := by
      rw [Nat.mul_comm den' num, cross, Nat.mul_comm num' den, Nat.mul_comm den' den]
    _ = ofRatio? num' den' := ofRatio?_scale positive num' den'

/-- The exponent of a magnitude is the one at which its significand fits. -/
theorem exponentOf_units (m : Magnitude) : exponentOf m.units 1 = m.exponent := by
  obtain ⟨s, e, small, -, normal⟩ := m
  rw [Nat.shiftLeft_eq, Nat.one_mul] at small
  simp only [exponentOf, units, Nat.div_one, Nat.shiftLeft_eq]
  rcases normal with rfl | full
  · have bound : s.log2 < 53 := by
      by_cases zero : s = 0
      · simp [zero]
      · exact (Nat.log2_lt zero).2 small
    simp only [Nat.pow_zero, Nat.mul_one]
    omega
  · rw [Nat.shiftLeft_eq, Nat.one_mul] at full
    have nonzero : s ≠ 0 := by rintro rfl; simp at full
    have shifted : s * 2 ^ e ≠ 0 := Nat.mul_ne_zero nonzero (Nat.ne_of_gt (Nat.two_pow_pos e))
    have above : 52 + e ≤ (s * 2 ^ e).log2 := by
      rw [Nat.le_log2 shifted, Nat.pow_add]
      exact Nat.mul_le_mul_right _ full
    have below : (s * 2 ^ e).log2 < 53 + e := by
      rw [Nat.log2_lt shifted, Nat.pow_add]
      exact Nat.mul_lt_mul_of_pos_right small (Nat.two_pow_pos e)
    omega

/-- A magnitude is nearest to its own units. -/
theorem ofRatio?_units (m : Magnitude) : ofRatio? m.units 1 = some m := by
  have exponent := exponentOf_units m
  have significand : significandOf m.units 1 = m.significand := by
    rw [significandOf, exponent, units, Nat.shiftLeft_eq, Nat.shiftLeft_eq, Nat.one_mul,
      roundHalfEven_mul _ (Nat.two_pow_pos _)]
  have noCarry : significandOf m.units 1 ≠ 1 <<< 53 := by
    rw [significand]
    exact Nat.ne_of_lt m.significand_lt
  have fits : exponentOf m.units 1 ≤ 2045 := exponent ▸ m.exponent_le
  rw [ofRatio?, dif_neg noCarry, dif_pos fits]
  simp only [significand, exponent]

theorem eq_of_units {m n : Magnitude} (same : m.units = n.units) : m = n :=
  Option.some.inj <| calc
    some m = ofRatio? m.units 1 := m.ofRatio?_units.symm
    _ = some n := by rw [same, n.ofRatio?_units]

end Magnitude

end SqlGrader
