import SqlGrader.Proofs.Binary64.OrderedRatios

/-!
# Numbers that are too large

A ratio is too large for the format from half a unit of the last place above the largest number on,
which is `2 ^ 1024 - 2 ^ 970`. Main statements: this is so of ratios (`ofRatio?_eq_none_iff`) and of
decimals (`toMagnitude?_eq_none_iff`).
-/

set_option autoImplicit false

namespace SqlGrader

namespace Magnitude

/-- The least number of units that is rounded beyond all magnitudes. -/
def overflow : Nat := (1 <<< 54 - 1) <<< 2044

example : overflow = (2 ^ 1024 - 2 ^ 970) * one := by
  decide +kernel

theorem overflow_add : overflow + 1 <<< 2044 = limit := by
  decide +kernel

theorem overflow_bounds : one ≤ overflow ∧ 10 ^ 308 * one ≤ overflow ∧
    overflow ≤ 10 ^ 330 * one := by
  decide +kernel

theorem roundedUnits_overflow : roundedUnits overflow 1 = limit := by
  decide +kernel

theorem roundedUnits_scale {scale : Nat} (positive : 0 < scale) (num den : Nat) :
    roundedUnits (scale * num) (scale * den) = roundedUnits num den := by
  rw [roundedUnits, significandOf_scale positive, exponentOf_scale positive, roundedUnits]

theorem shiftLeft_succ_eq (den k : Nat) : den <<< (k + 1) = 2 * (1 <<< k * den) := by
  rw [Nat.shiftLeft_eq, Nat.shiftLeft_eq, Nat.pow_succ, Nat.one_mul]
  ring

/-- What is rounded up to the limit is no smaller than the least such number of units. -/
theorem overflow_mul_le_of_limit_le {num den : Nat} (h : limit ≤ roundedUnits num den) :
    overflow * den ≤ num := by
  have whole := overflow_add
  by_cases large : 2046 ≤ exponentOf num den
  · -- the exponent alone shows that the quotient reaches the limit
    have logarithm : 2098 ≤ (num / den).log2 := by
      rw [exponentOf] at large
      omega
    have nonzero : num / den ≠ 0 := by
      intro zero
      rw [zero] at logarithm
      simp at logarithm
    have reached : limit ≤ num / den :=
      calc limit
        _ ≤ 1 <<< (num / den).log2 := shiftLeft_mono (Nat.le_refl 1) logarithm
        _ = 2 ^ (num / den).log2 := by rw [Nat.shiftLeft_eq, Nat.one_mul]
        _ ≤ num / den := Nat.log2_self_le nonzero
    calc overflow * den
      _ ≤ limit * den := Nat.mul_le_mul_right den (by omega)
      _ ≤ num / den * den := Nat.mul_le_mul_right den reached
      _ ≤ num := Nat.div_mul_le_self num den
  · generalize exponent : exponentOf num den = e at large
    have rounded := roundHalfEven_mul_le num (den <<< e)
    have scaled : limit * den ≤ significandOf num den * den <<< e := by
      rw [roundedUnits, exponent] at h
      calc limit * den
        _ ≤ significandOf num den <<< e * den := Nat.mul_le_mul_right den h
        _ = significandOf num den * den <<< e := by
          rw [Nat.shiftLeft_eq, Nat.shiftLeft_eq, Nat.mul_assoc, Nat.mul_comm (2 ^ e)]
    have half : den <<< e ≤ 2 * (1 <<< 2044 * den) := by
      calc den <<< e
        _ ≤ den <<< 2045 := shiftLeft_mono (Nat.le_refl den) (by omega)
        _ = 2 * (1 <<< 2044 * den) := shiftLeft_succ_eq den 2044
    have limit_mul : limit * den = overflow * den + 1 <<< 2044 * den := by
      rw [← whole, Nat.add_mul]
    rw [significandOf, exponent] at scaled
    omega

/-- A ratio is too large exactly from the least such number of units on. -/
theorem ofRatio?_eq_none_iff {num den : Nat} (positive : 0 < den) :
    ofRatio? num den = none ↔ overflow * den ≤ num := by
  constructor
  · exact fun large => overflow_mul_le_of_limit_le (limit_le_roundedUnits large)
  · intro large
    have atOverflow : roundedUnits (den * overflow) (den * 1) = limit := by
      rw [roundedUnits_scale positive, roundedUnits_overflow]
    rw [Nat.mul_one, Nat.mul_comm] at atOverflow
    have reached := roundedUnits_mono den large
    cases found : ofRatio? num den with
    | none => rfl
    | some m =>
      have below := m.units_lt_limit
      have units : m.units = roundedUnits num den := units_of_ofRatio? found
      omega

end Magnitude

namespace Decimal

/-- A decimal of at least `2 ^ 1024 - 2 ^ 970`. -/
def IsHuge (d : Decimal) : Prop :=
  Magnitude.overflow * d.denominator ≤ d.numerator

theorem lt_pow_digitCount (n : Nat) : n < 10 ^ digitCount n :=
  (Nat.length_toDigits_le_iff (by decide) Nat.length_toDigits_pos).1 (Nat.le_refl _)

theorem pow_le_of_lt_digitCount {n k : Nat} (h : k < digitCount n) (positive : 0 < n) :
    10 ^ k ≤ n := by
  rcases Nat.eq_zero_or_pos k with rfl | some?
  · exact positive
  · apply Nat.le_of_not_lt
    intro below
    exact absurd ((Nat.length_toDigits_le_iff (by decide) some?).2 below) (Nat.not_le_of_lt h)

theorem numerator_eq (d : Decimal) :
    d.numerator = d.coefficient * 10 ^ d.exponent.toNat * Magnitude.one := rfl

theorem denominator_eq (d : Decimal) : d.denominator = 10 ^ (-d.exponent).toNat := rfl

theorem power_units (k places : Nat) :
    10 ^ (k + places) * Magnitude.one = 10 ^ k * Magnitude.one * 10 ^ places := by
  rw [Nat.pow_add, Nat.mul_right_comm]

/-- Below `10 ^ 308` a decimal is not huge. -/
theorem not_isHuge_of_lt {d : Decimal}
    (small : d.coefficient * 10 ^ d.exponent.toNat < 10 ^ (308 + (-d.exponent).toNat)) :
    ¬ d.IsHuge := by
  obtain ⟨-, low, -⟩ := Magnitude.overflow_bounds
  rw [IsHuge, numerator_eq, denominator_eq]
  apply Nat.not_le_of_lt
  calc d.coefficient * 10 ^ d.exponent.toNat * Magnitude.one
    _ < 10 ^ (308 + (-d.exponent).toNat) * Magnitude.one :=
      Nat.mul_lt_mul_of_pos_right small Magnitude.one_pos
    _ = 10 ^ 308 * Magnitude.one * 10 ^ (-d.exponent).toNat := power_units 308 _
    _ ≤ Magnitude.overflow * 10 ^ (-d.exponent).toNat := Nat.mul_le_mul_right _ low

/-- From `10 ^ 330` on a decimal is huge. -/
theorem isHuge_of_le {d : Decimal}
    (large : 10 ^ (330 + (-d.exponent).toNat) ≤ d.coefficient * 10 ^ d.exponent.toNat) :
    d.IsHuge := by
  obtain ⟨-, -, high⟩ := Magnitude.overflow_bounds
  rw [IsHuge, numerator_eq, denominator_eq]
  calc Magnitude.overflow * 10 ^ (-d.exponent).toNat
    _ ≤ 10 ^ 330 * Magnitude.one * 10 ^ (-d.exponent).toNat := Nat.mul_le_mul_right _ high
    _ = 10 ^ (330 + (-d.exponent).toNat) * Magnitude.one := (power_units 330 _).symm
    _ ≤ d.coefficient * 10 ^ d.exponent.toNat * Magnitude.one := Nat.mul_le_mul_right _ large

/-- Exactly the huge decimals are too large for the format. -/
theorem toMagnitude?_eq_none_iff (d : Decimal) : d.toMagnitude? = none ↔ d.IsHuge := by
  have below := lt_pow_digitCount d.coefficient
  unfold toMagnitude?
  dsimp only
  split
  · rename_i small
    refine iff_of_false (by simp) (not_isHuge_of_lt ?_)
    rcases small with zero | small
    · rw [zero, Nat.zero_mul]
      exact Nat.pow_pos (by decide)
    · have noPower : d.exponent.toNat = 0 := by omega
      rw [noPower, Nat.pow_zero, Nat.mul_one]
      exact Nat.lt_of_lt_of_le below (Nat.pow_le_pow_right (by decide) (by omega))
  · rename_i some?
    split
    · rename_i large
      refine iff_of_true rfl (isHuge_of_le ?_)
      have positive : 0 < d.coefficient := by omega
      have digits : 10 ^ (digitCount d.coefficient - 1) ≤ d.coefficient :=
        pow_le_of_lt_digitCount (Nat.sub_lt Nat.length_toDigits_pos Nat.one_pos) positive
      calc 10 ^ (330 + (-d.exponent).toNat)
        _ ≤ 10 ^ (digitCount d.coefficient - 1 + d.exponent.toNat) :=
          Nat.pow_le_pow_right (by decide) (by omega)
        _ = 10 ^ (digitCount d.coefficient - 1) * 10 ^ d.exponent.toNat := Nat.pow_add _ _ _
        _ ≤ d.coefficient * 10 ^ d.exponent.toNat := Nat.mul_le_mul_right _ digits
    · exact Magnitude.ofRatio?_eq_none_iff d.denominator_pos

end Decimal

end SqlGrader
