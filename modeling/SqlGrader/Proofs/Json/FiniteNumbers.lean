import SqlGrader.Json.Value
import SqlGrader.Proofs.Binary64.RoundedRatios

/-!
# Numbers in range

Whatever number is read from a numeral is finite: what is too large is refused, and a division by a
power of ten makes nothing larger. Main statement: `fits_of_number?`.
-/

set_option autoImplicit false

namespace SqlGrader

namespace Magnitude

/-- The nearest magnitude of a positive integer is no smaller than one of the units that the integer
counts. -/
theorem shiftLeft_le_units {n k : Nat} {m : Magnitude} (large : 53 ≤ k) (positive : 0 < n)
    (found : ofRatio? (n <<< k) 1 = some m) : 1 <<< k ≤ m.units := by
  have exponent := exponentOf_shifted positive k
  have above := le_units_of_ofRatio? found (by omega)
  rw [exponent] at above
  rw [Nat.shiftLeft_eq, Nat.one_mul]
  exact Nat.le_trans (Nat.pow_le_pow_right (by decide) (by omega)) above

end Magnitude

namespace Decimal

/-- A power of ten that is not too large is no smaller than one. -/
theorem one_le_units_of_power {places : Nat} {m : Magnitude}
    (found : toMagnitude? ⟨1, places⟩ = some m) : Magnitude.one ≤ m.units := by
  have numerator : numerator ⟨1, places⟩ = 10 ^ places * Magnitude.one := by
    simp [Decimal.numerator]
  have denominator : denominator ⟨1, places⟩ = 1 := by
    simp [Decimal.denominator]
  unfold toMagnitude? at found
  dsimp only at found
  split at found
  · rename_i small
    rcases small with zero | small
    · cases zero
    · omega
  · split at found
    · cases found
    · rw [numerator, denominator, Magnitude.mul_one_eq_shifted] at found
      exact Magnitude.shiftLeft_le_units (by decide) (Nat.pow_pos (by decide)) found

end Decimal

namespace Binary64

/-- The bound of 64 bits is a magnitude. -/
theorem exists_units_word64 : ∃ m : Magnitude, m.units = UInt64.size * Magnitude.one :=
  ⟨⟨1 <<< 52, 1086, by decide, by decide, .inr (Nat.le_refl _)⟩, by decide +kernel⟩

theorem isFinite_ofNat {n : Nat} (small : n < UInt64.size) : (ofNat n).isFinite = true := by
  obtain ⟨bound, units⟩ := exists_units_word64
  have bounded : n * Magnitude.one ≤ bound.units * 1 := by
    rw [units, Nat.mul_one]
    exact Nat.mul_le_mul_right _ (Nat.le_of_lt small)
  obtain ⟨m, found⟩ := Magnitude.exists_ofRatio?_of_le Nat.one_pos bound bounded
  rw [ofNat, ofRatio_of_magnitude found]
  rfl

theorem isFinite_neg {x : Binary64} (finite : x.isFinite = true) : x.neg.isFinite = true := by
  cases x with
  | nan => cases finite
  | infinite negative => cases finite
  | finite negative m => rfl

/-- A finite number divided by a power of ten is finite. -/
theorem isFinite_div_power {x : Binary64} (finite : x.isFinite = true) (places : Nat) :
    (x.div (.ofDecimal false ⟨1, places⟩)).isFinite = true := by
  cases x with
  | nan => cases finite
  | infinite negative => cases finite
  | finite negative m =>
    unfold ofDecimal
    cases found : Decimal.toMagnitude? ⟨1, places⟩ with
    | none => rfl
    | some n =>
      have large := Decimal.one_le_units_of_power found
      have nonzero : 0 < n.units := Nat.lt_of_lt_of_le Magnitude.one_pos large
      have bounded : m.units * Magnitude.one ≤ m.units * n.units := Nat.mul_le_mul_left _ large
      obtain ⟨quotient, rounds⟩ := Magnitude.exists_ofRatio?_of_le nonzero m bounded
      dsimp only
      rw [div_finite _ _ _ (Nat.ne_of_gt nonzero), ofRatio_of_magnitude rounds]
      rfl

end Binary64

namespace Json

namespace Numeral

theorem absorb_lt {significand : Nat} (small : significand < UInt64.size) (digits : List Char) :
    (absorb significand digits).1 < UInt64.size := by
  fun_induction absorb significand digits with
  | case1 => exact small
  | case2 _ _ _ _ below ih => exact ih below
  | case3 => exact small

theorem isFinite_scaleDown {x : Binary64} (finite : x.isFinite = true) (places : Nat) :
    (scaleDown x places).isFinite = true := by
  fun_induction scaleDown x places with
  | case1 x places few => exact Binary64.isFinite_div_power finite places
  | case2 => exact finite
  | case3 x places many nonzero ih => exact ih (Binary64.isFinite_div_power finite 308)

theorem isFinite_of_scale? {significand : Nat} {exponent : Int} {x : Binary64}
    (small : significand < UInt64.size) (found : scale? significand exponent = some x) :
    x.isFinite = true := by
  have whole := Binary64.isFinite_ofNat small
  unfold scale? at found
  dsimp only at found
  split at found
  · cases found
    exact isFinite_scaleDown whole _
  · split at found
    · split at found
      · rename_i inRange
        cases found
        exact inRange
      · cases found
    · split at found
      · cases found
        exact whole
      · cases found

theorem isFinite_of_real? {n : Numeral} {x : Binary64} (found : n.real? = some x) :
    x.isFinite = true := by
  have whole : (absorb 0 n.whole).1 < UInt64.size := absorb_lt (by decide) n.whole
  have small := absorb_lt whole n.fraction
  unfold real? at found
  obtain ⟨y, scaled, rfl⟩ := Option.map_eq_some_iff.1 found
  have finite := isFinite_of_scale? small scaled
  split
  · exact Binary64.isFinite_neg finite
  · exact finite

end Numeral

/-- Whether a number is in its range: 64 bits for an integer, and not infinite. -/
def Number.Fits : Number → Prop
  | natural n => n < UInt64.size
  | negative i => -(UInt64.size / 2 : Nat) ≤ i ∧ i < 0
  | real x => x.isFinite = true

theorem Numeral.fits_of_value? {n : Numeral} {number : Number} (found : n.value? = some number) :
    number.Fits := by
  have real : ∀ {number}, n.real?.map .real = some number → Number.Fits number := by
    intro number found
    obtain ⟨x, read, rfl⟩ := Option.map_eq_some_iff.1 found
    exact isFinite_of_real? read
  unfold value? at found
  dsimp only at found
  split at found
  · split at found
    · split at found
      · rename_i below
        cases found
        simp only [Number.Fits]
        omega
      · exact real found
    · split at found
      · rename_i small
        cases found
        exact small
      · exact real found
  · exact real found

/-- A number that is read is in its range. -/
theorem Value.fits_of_number? {numeral : String} {number : Number}
    (found : number? numeral = some number) : number.Fits := by
  obtain ⟨n, -, value⟩ := Option.bind_eq_some_iff.1 found
  exact Numeral.fits_of_value? value

end Json

end SqlGrader
