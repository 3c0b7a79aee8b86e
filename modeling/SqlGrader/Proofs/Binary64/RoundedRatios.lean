import SqlGrader.Proofs.Binary64.Integers
import SqlGrader.Score

/-!
# Rounded ratios

A ratio of integers is computed in two steps: to the nearest number, and from there to the nearest
integer. As long as the numerator has at most 52 bits the first step moves the ratio neither to a
half nor across one, so that the outcome is that of a single rounding. Main statements: a ratio
that is no larger than a magnitude has a nearest one (`exists_ofRatio?_of_le`), and
`roundedRatio_eq`.
-/

set_option autoImplicit false

namespace SqlGrader

/-- Rounding does not go below an integer that a ratio reaches. -/
theorem le_roundHalfEven {t num den : Nat} (positive : 0 < den) (h : t * den ≤ num) :
    t ≤ roundHalfEven num den :=
  Nat.le_trans ((Nat.le_div_iff_mul_le positive).2 h) (div_le_roundHalfEven num den)

/-- Rounding does not go above an integer that a ratio does not exceed. -/
theorem roundHalfEven_le {t num den : Nat} (positive : 0 < den) (h : num ≤ t * den) :
    roundHalfEven num den ≤ t := by
  rcases Nat.lt_or_eq_of_le h with below | exact
  · have quotient : num / den < t := (Nat.div_lt_iff_lt_mul positive).2 below
    exact Nat.le_trans (roundHalfEven_le_div_succ num den) quotient
  · rw [exact, roundHalfEven_mul t positive]

/-- Rounding adds half of one at most. -/
theorem roundHalfEven_mul_le (num den : Nat) :
    2 * (roundHalfEven num den * den) ≤ 2 * num + den := by
  have whole : den * (num / den) + num % den = num := Nat.div_add_mod num den
  have up : (num / den + 1) * den = den * (num / den) + den := by
    rw [Nat.add_mul, Nat.one_mul, Nat.mul_comm]
  have down : num / den * den = den * (num / den) := Nat.mul_comm _ _
  simp only [roundHalfEven]
  split
  · omega
  · split
    · omega
    · split <;> omega

namespace Magnitude

theorem shiftLeft_pos {den : Nat} (positive : 0 < den) (k : Nat) : 0 < den <<< k := by
  rw [Nat.shiftLeft_eq]
  exact Nat.mul_pos positive (Nat.two_pow_pos k)

theorem log2_le_log2 {m n : Nat} (h : m ≤ n) : m.log2 ≤ n.log2 := by
  rcases Nat.eq_zero_or_pos m with rfl | positive
  · exact Nat.zero_le _
  · have nonzero : m ≠ 0 := Nat.ne_of_gt positive
    have larger : n ≠ 0 := Nat.ne_of_gt (Nat.lt_of_lt_of_le positive h)
    exact (Nat.le_log2 larger).2 (Nat.le_trans (Nat.log2_self_le nonzero) h)

theorem exponentOf_le {num den : Nat} {m : Magnitude} (h : num ≤ m.units * den) :
    exponentOf num den ≤ m.exponent := by
  have quotient : num / den ≤ m.units := Nat.div_le_of_le_mul (Nat.mul_comm den m.units ▸ h)
  have logarithm := log2_le_log2 quotient
  rw [← exponentOf_units m, exponentOf, exponentOf, Nat.div_one]
  omega

/-- What is no larger than a magnitude is not too large for the format. -/
theorem exists_ofRatio?_of_le {num den : Nat} (positive : 0 < den) (m : Magnitude)
    (h : num ≤ m.units * den) : ∃ n, ofRatio? num den = some n := by
  have exponent := exponentOf_le h
  have limit := m.exponent_le
  unfold ofRatio?
  split
  · rename_i carry
    have lower : exponentOf num den + 1 ≤ 2045 := by
      by_cases equal : exponentOf num den = m.exponent
      · -- at the exponent of the magnitude the significand is no larger than its own
        have shifted : m.units * den = m.significand * den <<< m.exponent := by
          rw [units, Nat.shiftLeft_eq, Nat.shiftLeft_eq, Nat.mul_assoc, Nat.mul_comm den]
        have small : significandOf num den ≤ m.significand := by
          rw [significandOf, equal]
          exact roundHalfEven_le (shiftLeft_pos positive _) (shifted ▸ h)
        have full := m.significand_lt
        omega
      · omega
    rw [dif_pos lower]
    exact ⟨_, rfl⟩
  · rw [dif_pos (Nat.le_trans exponent limit)]
    exact ⟨_, rfl⟩

/-- A carry out of the significand does not change the value. -/
theorem units_of_ofRatio? {num den : Nat} {m : Magnitude} (found : ofRatio? num den = some m) :
    m.units = significandOf num den <<< exponentOf num den := by
  unfold ofRatio? at found
  split at found
  · rename_i carry
    split at found
    · cases found
      rw [carry]
      change 1 <<< 52 <<< (exponentOf num den + 1) = 1 <<< 53 <<< exponentOf num den
      rw [← Nat.shiftLeft_add, ← Nat.shiftLeft_add]
      congr 1
      omega
    · cases found
  · split at found
    · cases found
      rfl
    · cases found

/-! ## Halves -/

/-- At an exponent that is not too large, a magnitude is no smaller than a multiple of the unit
there exactly when the ratio it comes from is. -/
theorem le_units_iff {num den t k : Nat} {m : Magnitude} (positive : 0 < den)
    (found : ofRatio? num den = some m) (fits : exponentOf num den ≤ k)
    (apart : num < t <<< k * den → 2 * num + den <<< exponentOf num den < 2 * (t <<< k * den)) :
    t <<< k ≤ m.units ↔ t <<< k * den ≤ num := by
  rw [units_of_ofRatio? found]
  generalize same : exponentOf num den = e at fits apart
  have scaled : t <<< k = t <<< (k - e) * 2 ^ e := by
    rw [Nat.shiftLeft_eq, Nat.shiftLeft_eq, Nat.mul_assoc, ← Nat.pow_add, Nat.sub_add_cancel fits]
  have place : t <<< k * den = t <<< (k - e) * den <<< e := by
    rw [scaled, Nat.shiftLeft_eq den, Nat.mul_assoc, Nat.mul_comm den]
  have units : t <<< k ≤ significandOf num den <<< e ↔ t <<< (k - e) ≤ significandOf num den := by
    rw [scaled, Nat.shiftLeft_eq (significandOf num den)]
    exact Nat.mul_le_mul_right_iff (Nat.two_pow_pos e)
  rw [units, significandOf, same]
  constructor
  · intro reached
    apply Nat.le_of_not_lt
    intro below
    have gap := apart below
    have rounded := roundHalfEven_mul_le num (den <<< e)
    have grown := Nat.mul_le_mul_right (den <<< e) reached
    omega
  · intro reached
    exact le_roundHalfEven (shiftLeft_pos positive e) (place ▸ reached)

end Magnitude

namespace Binary64

/-- Equal ratios are rounded to the same number. -/
theorem ofRatio_eq_of_cross {num den num' den' : Nat} (negative : Bool) (positive : 0 < den)
    (positive' : 0 < den') (cross : num * den' = num' * den) :
    ofRatio negative num den = ofRatio negative num' den' := by
  unfold ofRatio
  rw [Magnitude.ofRatio?_eq_of_cross positive positive' cross]

theorem mul_finite (s t : Bool) (m n : Magnitude) :
    (finite s m).mul (finite t n) = ofRatio (s != t) (m.units * n.units) Magnitude.one :=
  rfl

theorem div_finite (s t : Bool) (m : Magnitude) {n : Magnitude} (nonzero : n.units ≠ 0) :
    (finite s m).div (finite t n) = ofRatio (s != t) (m.units * Magnitude.one) n.units := by
  rw [div, if_neg nonzero]

/-- An integer of 53 bits as a number. -/
theorem exists_ofNat {n : Nat} (small : n < 2 ^ 53) :
    ∃ m, ofNat n = finite false m ∧ m.units = n * Magnitude.one := by
  obtain ⟨m, found, exact⟩ := Magnitude.exists_ofRatio?_integer small
  exact ⟨m, ofRatio_of_magnitude found, exact⟩

theorem mul_ofNat {a b : Nat} (smallA : a < 2 ^ 53) (smallB : b < 2 ^ 53) :
    (ofNat a).mul (ofNat b) = ofNat (a * b) := by
  obtain ⟨m, value, exact⟩ := exists_ofNat smallA
  obtain ⟨n, value', exact'⟩ := exists_ofNat smallB
  have cross : m.units * n.units * 1 = a * b * Magnitude.one * Magnitude.one := by
    rw [exact, exact']
    ring
  rw [value, value', mul_finite, ofNat]
  exact ofRatio_eq_of_cross false Magnitude.one_pos Nat.one_pos cross

/-- An integer over an integer is the number nearest to their ratio. -/
theorem div_ofNat {n c : Nat} (small : n < 2 ^ 53) (positive : 0 < c) (smallC : c < 2 ^ 53) :
    (ofNat n).div (ofNat c) = ofRatio false (n * Magnitude.one) c := by
  obtain ⟨m, value, exact⟩ := exists_ofNat small
  obtain ⟨d, value', exact'⟩ := exists_ofNat smallC
  have nonzero : 0 < d.units := exact' ▸ Nat.mul_pos positive Magnitude.one_pos
  have cross : m.units * Magnitude.one * c = n * Magnitude.one * d.units := by
    rw [exact, exact']
    ring
  rw [value, value', div_finite _ _ _ (Nat.ne_of_gt nonzero)]
  exact ofRatio_eq_of_cross false nonzero positive cross

end Binary64

namespace Magnitude

/-- The distance of neighbours at a quotient of integers is below the inverse of the divisor. -/
theorem shiftLeft_exponentOf_lt {n c k : Nat} (small : n < 2 ^ 52) (smallC : c < 2 ^ 53)
    (large : 53 ≤ k) : c * 2 ^ exponentOf (n <<< k) c < 2 ^ k := by
  by_cases least : exponentOf (n <<< k) c = 0
  · rw [least, Nat.pow_zero, Nat.mul_one]
    exact Nat.lt_of_lt_of_le smallC (Nat.pow_le_pow_right (by decide) large)
  · unfold exponentOf at least ⊢
    generalize quotient : n <<< k / c = q at least ⊢
    have nonzero : q ≠ 0 := by
      rintro rfl
      simp at least
    have powers : 52 + (q.log2 - 52) = q.log2 := by omega
    have scaled : 2 ^ 52 * (c * 2 ^ (q.log2 - 52)) < 2 ^ 52 * 2 ^ k :=
      calc 2 ^ 52 * (c * 2 ^ (q.log2 - 52))
        _ = c * 2 ^ q.log2 := by rw [← powers, Nat.pow_add, powers, Nat.mul_left_comm]
        _ ≤ c * q := Nat.mul_le_mul_left c (Nat.log2_self_le nonzero)
        _ ≤ n <<< k := quotient ▸ Nat.mul_div_le (n <<< k) c
        _ = n * 2 ^ k := Nat.shiftLeft_eq n k
        _ < 2 ^ 52 * 2 ^ k := Nat.mul_lt_mul_of_pos_right small (Nat.two_pow_pos k)
    exact Nat.lt_of_mul_lt_mul_left scaled

/-- The nearest number of a quotient of integers reaches a half exactly when the quotient does. -/
theorem half_le_units_iff {n c v k : Nat} {m : Magnitude} (small : n < 2 ^ 52) (positive : 0 < c)
    (smallC : c < 2 ^ 53) (large : 53 ≤ k) (found : ofRatio? (n <<< (k + 1)) c = some m) :
    (2 * v + 1) <<< k ≤ m.units ↔ (2 * v + 1) * c ≤ 2 * n := by
  have close := shiftLeft_exponentOf_lt (k := k + 1) small smallC (by omega)
  have fits : exponentOf (n <<< (k + 1)) c ≤ k := by
    have power := Nat.lt_of_le_of_lt (Nat.le_mul_of_pos_left _ positive) close
    have below := (Nat.pow_lt_pow_iff_right (by decide)).1 power
    omega
  have halves : n <<< (k + 1) = 2 * n * 2 ^ k := by
    rw [Nat.shiftLeft_eq, Nat.pow_succ]
    ring
  have multiple : (2 * v + 1) <<< k * c = (2 * v + 1) * c * 2 ^ k := by
    rw [Nat.shiftLeft_eq, Nat.mul_right_comm]
  have reaches : (2 * v + 1) <<< k * c ≤ n <<< (k + 1) ↔ (2 * v + 1) * c ≤ 2 * n := by
    rw [halves, multiple]
    exact Nat.mul_le_mul_right_iff (Nat.two_pow_pos k)
  rw [le_units_iff positive found fits, reaches]
  intro below
  -- short of a half, the quotient is short of it by an odd part of the double divisor
  have short : 2 * n + 1 ≤ (2 * v + 1) * c := by
    apply Nat.lt_of_not_le
    intro reached
    exact absurd (reaches.2 reached) (Nat.not_le_of_lt below)
  generalize exponentOf (n <<< (k + 1)) c = e at close ⊢
  rw [halves, multiple, Nat.shiftLeft_eq]
  have gap : (2 * n + 1) * 2 ^ k ≤ (2 * v + 1) * c * 2 ^ k := Nat.mul_le_mul_right _ short
  rw [Nat.add_mul, Nat.one_mul] at gap
  rw [Nat.pow_succ] at close
  omega

/-- Two quotients that reach the same halves are rounded to the same integer. -/
theorem rounded_eq_of_halves {u n c k : Nat} (positive : 0 < c)
    (halves : ∀ v, (2 * v + 1) <<< k ≤ u ↔ (2 * v + 1) * c ≤ 2 * n) :
    (2 * u + 1 <<< (k + 1)) / (2 * 1 <<< (k + 1)) = (2 * n + c) / (2 * c) := by
  have unit : 1 <<< (k + 1) = 2 * 2 ^ k := by rw [Nat.shiftLeft_eq, Nat.pow_succ]; ring
  rw [unit]
  have power := Nat.two_pow_pos k
  have reaches : ∀ w, w ≤ (2 * u + 2 * 2 ^ k) / (2 * (2 * 2 ^ k)) ↔ w ≤ (2 * n + c) / (2 * c) := by
    intro w
    cases w with
    | zero => exact iff_of_true (Nat.zero_le _) (Nat.zero_le _)
    | succ v =>
      have half := halves v
      rw [Nat.shiftLeft_eq] at half
      have left : (v + 1) * (2 * (2 * 2 ^ k)) = 2 * ((2 * v + 1) * 2 ^ k) + 2 * 2 ^ k := by ring
      have right : (v + 1) * (2 * c) = (2 * v + 1) * c + c := by ring
      rw [Nat.le_div_iff_mul_le (by omega), Nat.le_div_iff_mul_le (by omega), left, right]
      omega
  exact Nat.le_antisymm ((reaches _).1 (Nat.le_refl _)) ((reaches _).2 (Nat.le_refl _))

end Magnitude

theorem Binary64.roundToWord_finite (m : Magnitude) :
    roundToWord (.finite false m) =
      min ((2 * m.units + Magnitude.one) / (2 * Magnitude.one)) (UInt32.size - 1) := by
  simp only [roundToWord, Bool.false_eq_true, if_false]

/-- A ratio is rounded as if it were not rounded to a number of the format first. -/
theorem roundedRatio_eq {a b c : Nat} (smallA : a < 2 ^ 53) (smallB : b < 2 ^ 53)
    (product : a * b < 2 ^ 52) (positive : 0 < c) (smallC : c < 2 ^ 53) :
    roundedRatio a b c = min ((2 * (a * b) + c) / (2 * c)) (UInt32.size - 1) := by
  have small : a * b < 2 ^ 53 := Nat.lt_trans product (by decide)
  rw [roundedRatio, Binary64.mul_ofNat smallA smallB, Binary64.div_ofNat small positive smallC]
  generalize a * b = n at product small ⊢
  obtain ⟨whole, exactly, units⟩ := Magnitude.exists_ofRatio?_integer small
  have least : n * Magnitude.one ≤ whole.units * c := by
    rw [units]
    exact Nat.le_mul_of_pos_right _ positive
  obtain ⟨m, found⟩ := Magnitude.exists_ofRatio?_of_le positive whole least
  rw [Binary64.ofRatio_of_magnitude found, Binary64.roundToWord_finite]
  rw [Magnitude.mul_one_eq_shifted] at found
  have rounded : (2 * m.units + Magnitude.one) / (2 * Magnitude.one) = (2 * n + c) / (2 * c) :=
    Magnitude.rounded_eq_of_halves positive fun _ =>
      Magnitude.half_le_units_iff product positive smallC (by decide) found
  rw [rounded]

end SqlGrader
