import SqlGrader.Proofs.Binary64.RoundedRatios

/-!
# Ratios in order

Rounding keeps the order of ratios, and so do products and quotients of numbers without a minus
sign. To say so of all of them, infinity stands above the finite numbers and not-a-number stands at
zero, where it is rounded to (`height`). Main statement: a larger second factor never makes a
rounded ratio smaller, however large the numbers are (`roundedRatio_mono`).
-/

set_option autoImplicit false

namespace SqlGrader

/-- Rounding to an integer keeps the order. -/
theorem roundHalfEven_mono {num num' : Nat} (den : Nat) (le : num ≤ num') :
    roundHalfEven num den ≤ roundHalfEven num' den := by
  have quotient : num / den ≤ num' / den := Nat.div_le_div_right le
  rcases Nat.lt_or_eq_of_le quotient with below | same
  · exact Nat.le_trans (roundHalfEven_le_div_succ num den)
      (Nat.le_trans below (div_le_roundHalfEven num' den))
  · have whole := Nat.div_add_mod num den
    have whole' := Nat.div_add_mod num' den
    rw [← same] at whole'
    simp only [roundHalfEven, ← same]
    repeat' split
    all_goals omega

namespace Magnitude

/-- The units that a ratio is rounded to if no number is too large. -/
def roundedUnits (num den : Nat) : Nat :=
  significandOf num den <<< exponentOf num den

theorem roundedUnits_zero (den : Nat) : roundedUnits 0 den = 0 := by
  have exponent : exponentOf 0 den = 0 := by simp [exponentOf]
  have significand : significandOf 0 den = 0 := by
    simp [significandOf, roundHalfEven]
  rw [roundedUnits, significand, exponent, Nat.shiftLeft_zero]

theorem exponentOf_mono {num num' : Nat} (den : Nat) (le : num ≤ num') :
    exponentOf num den ≤ exponentOf num' den :=
  Nat.sub_le_sub_right (log2_le_log2 (Nat.div_le_div_right le)) 52

theorem shiftLeft_mono {m n j k : Nat} (le : m ≤ n) (le' : j ≤ k) : m <<< j ≤ n <<< k := by
  rw [Nat.shiftLeft_eq, Nat.shiftLeft_eq]
  exact Nat.mul_le_mul le (Nat.pow_le_pow_right (by decide) le')

/-- Rounding to units keeps the order: if the exponents differ, the smaller one leaves no room for
as many units as the larger one has. -/
theorem roundedUnits_mono {num num' : Nat} (den : Nat) (le : num ≤ num') :
    roundedUnits num den ≤ roundedUnits num' den := by
  unfold roundedUnits
  rcases Nat.lt_or_eq_of_le (exponentOf_mono den le) with below | same
  · have full := le_significandOf num' den (by omega)
    calc significandOf num den <<< exponentOf num den
      _ ≤ 1 <<< 53 <<< exponentOf num den :=
        shiftLeft_mono (significandOf_le num den) (Nat.le_refl _)
      _ = 1 <<< 52 <<< (1 + exponentOf num den) := by
        rw [← Nat.shiftLeft_add, ← Nat.shiftLeft_add, ← Nat.add_assoc]
      _ ≤ significandOf num' den <<< exponentOf num' den := shiftLeft_mono full (by omega)
  · rw [significandOf, significandOf, same]
    exact shiftLeft_mono (roundHalfEven_mono _ le) (Nat.le_refl _)

/-- What is too large for the format is above all magnitudes. -/
theorem limit_le_roundedUnits {num den : Nat} (large : ofRatio? num den = none) :
    limit ≤ roundedUnits num den := by
  unfold ofRatio? at large
  unfold roundedUnits limit
  split at large
  · rename_i carry
    split at large
    · cases large
    · rw [carry, ← Nat.shiftLeft_add]
      exact shiftLeft_mono (Nat.le_refl 1) (by omega)
  · split at large
    · cases large
    · have full := le_significandOf num den (by omega)
      calc 1 <<< 2098
        _ ≤ 1 <<< (52 + exponentOf num den) := shiftLeft_mono (Nat.le_refl 1) (by omega)
        _ = 1 <<< 52 <<< exponentOf num den := Nat.shiftLeft_add 1 52 _
        _ ≤ significandOf num den <<< exponentOf num den := shiftLeft_mono full (Nat.le_refl _)

end Magnitude

namespace Binary64

open Magnitude

/-! ## Heights -/

/-- The place of a number above zero, in units. What is not above zero has none. -/
def height : Binary64 → Nat
  | .infinite false => limit
  | .finite false m => m.units
  | .nan | .infinite true | .finite true _ => 0

inductive IsUnsigned : Binary64 → Prop where
  | nan : IsUnsigned .nan
  | infinite : IsUnsigned (.infinite false)
  | finite (m : Magnitude) : IsUnsigned (.finite false m)

theorem height_le (x : Binary64) : x.height ≤ limit := by
  unfold height
  split
  · exact Nat.le_refl _
  · exact Nat.le_of_lt (units_lt_limit _)
  all_goals exact Nat.zero_le _

theorem height_ofRatio (num den : Nat) :
    (ofRatio false num den).height = min (roundedUnits num den) limit := by
  unfold ofRatio
  cases found : ofRatio? num den with
  | none => exact (Nat.min_eq_right (limit_le_roundedUnits found)).symm
  | some m =>
    have units : m.units = roundedUnits num den := units_of_ofRatio? found
    rw [← units]
    exact (Nat.min_eq_left (Nat.le_of_lt m.units_lt_limit)).symm

theorem isUnsigned_ofRatio (num den : Nat) : (ofRatio false num den).IsUnsigned := by
  unfold ofRatio
  cases ofRatio? num den with
  | none => exact .infinite
  | some m => exact .finite m

theorem ofRatio_ne_nan (negative : Bool) (num den : Nat) : ofRatio negative num den ≠ nan := by
  unfold ofRatio
  cases ofRatio? num den <;> simp

/-- The nearest integer depends on the height only. -/
theorem roundToWord_eq (x : Binary64) :
    x.roundToWord = min ((2 * x.height + one) / (2 * one)) (UInt32.size - 1) := by
  have none? : min ((2 * 0 + one) / (2 * one)) (UInt32.size - 1) = 0 := by decide +kernel
  have all? : min ((2 * limit + one) / (2 * one)) (UInt32.size - 1) = UInt32.size - 1 := by
    decide +kernel
  cases x with
  | nan => exact none?.symm
  | infinite negative =>
    cases negative with
    | true => exact none?.symm
    | false => exact all?.symm
  | finite negative m =>
    cases negative with
    | true => exact none?.symm
    | false => exact roundToWord_finite m

/-! ## Products and quotients -/

theorem limit_ne_zero : limit ≠ 0 := by
  decide +kernel

theorem IsUnsigned.mul {x y : Binary64} (unsigned : x.IsUnsigned) (unsigned' : y.IsUnsigned) :
    (x.mul y).IsUnsigned := by
  cases unsigned with
  | nan => exact .nan
  | infinite =>
    cases unsigned' with
    | nan => exact .nan
    | infinite => exact .infinite
    | finite n =>
      rw [Binary64.mul]
      split
      · exact .nan
      · exact .infinite
  | finite m =>
    cases unsigned' with
    | nan => exact .nan
    | infinite =>
      rw [Binary64.mul]
      split
      · exact .nan
      · exact .infinite
    | finite n => exact isUnsigned_ofRatio _ _

/-- The height of a product hangs on the heights of the factors. Zero times infinity is
not-a-number, which has no height either. -/
theorem height_mul {x y : Binary64} (unsigned : x.IsUnsigned) (unsigned' : y.IsUnsigned) :
    (x.mul y).height =
      if x.height = 0 ∨ y.height = 0 then 0
      else if x.height = limit ∨ y.height = limit then limit
      else min (roundedUnits (x.height * y.height) one) limit := by
  cases unsigned with
  | nan => simp [mul, height]
  | infinite =>
    cases unsigned' with
    | nan => simp [mul, height]
    | infinite => simp [mul, height, limit_ne_zero]
    | finite n => by_cases zero : n.units = 0 <;> simp [mul, height, limit_ne_zero, zero]
  | finite m =>
    cases unsigned' with
    | nan => simp [mul, height]
    | infinite => by_cases zero : m.units = 0 <;> simp [mul, height, limit_ne_zero, zero]
    | finite n =>
      have below := Nat.ne_of_lt m.units_lt_limit
      have below' := Nat.ne_of_lt n.units_lt_limit
      rw [mul_finite, bne_self_eq_false, height_ofRatio]
      simp only [height, below, below', or_self, if_false]
      split
      · rename_i zero
        rw [Nat.mul_eq_zero.2 zero, roundedUnits_zero, Nat.zero_min]
      · rfl

/-- The height of a quotient hangs on the heights of the dividend and of a divisor that is a
number. -/
theorem height_div {x y : Binary64} (unsigned : x.IsUnsigned) (unsigned' : y.IsUnsigned)
    (number : y ≠ nan) :
    (x.div y).height =
      if x.height = 0 ∨ y.height = limit then 0
      else if x.height = limit ∨ y.height = 0 then limit
      else min (roundedUnits (x.height * one) y.height) limit := by
  cases unsigned with
  | nan => simp [div, height]
  | infinite =>
    cases unsigned' with
    | nan => exact absurd rfl number
    | infinite => simp [div, height]
    | finite n =>
      have below := Nat.ne_of_lt n.units_lt_limit
      simp [div, height, limit_ne_zero, below]
  | finite m =>
    have below := Nat.ne_of_lt m.units_lt_limit
    cases unsigned' with
    | nan => exact absurd rfl number
    | infinite => simp [div, height, zero, Magnitude.zero, units]
    | finite n =>
      have below' := Nat.ne_of_lt n.units_lt_limit
      by_cases divisor : n.units = 0
      · by_cases dividend : m.units = 0 <;>
          simp [div, height, divisor, dividend, limit_ne_zero.symm]
      · rw [div_finite _ _ _ divisor, bne_self_eq_false, height_ofRatio]
        simp only [height, below, below', divisor, or_self, or_false, if_false]
        split
        · rename_i zero
          rw [zero, Nat.zero_mul, roundedUnits_zero, Nat.zero_min]
        · rfl

/-- A higher second factor makes no lower product. -/
theorem height_mul_mono {x y y' : Binary64} (unsigned : x.IsUnsigned) (second : y.IsUnsigned)
    (second' : y'.IsUnsigned) (le : y.height ≤ y'.height) :
    (x.mul y).height ≤ (x.mul y').height := by
  -- a factor at the limit takes the product there, however small the other one is
  have bound := y'.height_le
  have grown := roundedUnits_mono one (Nat.mul_le_mul_left x.height le)
  rw [height_mul unsigned second, height_mul unsigned second']
  repeat' split
  all_goals omega

/-- A higher dividend makes no lower quotient. -/
theorem height_div_mono {x x' y : Binary64} (first : x.IsUnsigned) (first' : x'.IsUnsigned)
    (unsigned : y.IsUnsigned) (number : y ≠ nan) (le : x.height ≤ x'.height) :
    (x.div y).height ≤ (x'.div y).height := by
  have bound := x'.height_le
  have grown := roundedUnits_mono y.height (Nat.mul_le_mul_right one le)
  rw [height_div first unsigned number, height_div first' unsigned number]
  repeat' split
  all_goals omega

theorem height_ofNat_mono {n n' : Nat} (le : n ≤ n') : (ofNat n).height ≤ (ofNat n').height := by
  have grown := roundedUnits_mono 1 (Nat.mul_le_mul_right one le)
  rw [ofNat, ofNat, height_ofRatio, height_ofRatio]
  omega

end Binary64

open Binary64 in
/-- A larger second factor never makes a rounded ratio smaller. -/
theorem roundedRatio_mono (a : Nat) {b b' : Nat} (c : Nat) (le : b ≤ b') :
    roundedRatio a b c ≤ roundedRatio a b' c := by
  have unsigned : ∀ n, (ofNat n).IsUnsigned := fun n => isUnsigned_ofRatio _ 1
  have number : ofNat c ≠ nan := ofRatio_ne_nan false _ 1
  have product := height_mul_mono (unsigned a) (unsigned b) (unsigned b') (height_ofNat_mono le)
  have quotient := height_div_mono ((unsigned a).mul (unsigned b))
    ((unsigned a).mul (unsigned b')) (unsigned c) number product
  rw [roundedRatio, roundedRatio, roundToWord_eq, roundToWord_eq]
  have rounded := Nat.div_le_div_right (c := 2 * Magnitude.one)
    (Nat.add_le_add_right (Nat.mul_le_mul_left 2 quotient) Magnitude.one)
  exact Nat.le_min.2 ⟨Nat.le_trans (Nat.min_le_left _ _) rounded, Nat.min_le_right _ _⟩

end SqlGrader
