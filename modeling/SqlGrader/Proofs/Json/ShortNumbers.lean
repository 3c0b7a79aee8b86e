import SqlGrader.Proofs.Binary64.RoundedRatios
import SqlGrader.Proofs.Json.Numerals

/-!
# Short numerals

The reader of numerals takes their digits as an integer and divides it by a power of ten, which is
rounding once if both are numbers of the format. So a numeral of few digits and places is read as
the number nearest to it (`real?_of_short`), and a short number is read back
(`readsBack_of_isShort`).
-/

set_option autoImplicit false

namespace SqlGrader

namespace Decimal

/-- A decimal of few places that is in range is rounded as a ratio. -/
theorem ofRatio?_of_short {c : Nat} {e : Int} {m : Magnitude} (small : c < 2 ^ 53) (low : -15 ≤ e)
    (high : e ≤ 15) (reads : toMagnitude? ⟨c, e⟩ = some m) :
    Magnitude.ofRatio? (numerator ⟨c, e⟩) (denominator ⟨c, e⟩) = some m := by
  have few := Magnitude.digitCount_le_sixteen small
  unfold toMagnitude? at reads
  dsimp only at reads
  split at reads
  · rename_i outside
    obtain rfl : c = 0 := outside.resolve_right (by omega)
    cases reads
    rw [← Magnitude.ofRatio?_units .zero]
    refine Magnitude.ofRatio?_eq_of_cross (denominator_pos _) Nat.one_pos ?_
    simp [numerator, Magnitude.units, Magnitude.zero]
  · rw [if_neg (by omega)] at reads
    exact reads

end Decimal

namespace Json

namespace Numeral

/-! ## Digits -/

theorem le_ofDigitChars (digits : List Char) (init : Nat) :
    init ≤ Nat.ofDigitChars 10 digits init := by
  rw [Nat.ofDigitChars_eq_ofDigitChars_zero]
  exact Nat.le_trans (Nat.le_mul_of_pos_left init (Nat.pow_pos (by decide))) (Nat.le_add_right _ _)

/-- Digits of no more than 64 bits are taken whole. -/
theorem absorb_eq {digits : List Char} {init : Nat}
    (small : Nat.ofDigitChars 10 digits init < UInt64.size) :
    absorb init digits = (Nat.ofDigitChars 10 digits init, []) := by
  induction digits generalizing init with
  | nil => rfl
  | cons c rest ih =>
    rw [Nat.ofDigitChars_cons] at small ⊢
    have fits := Nat.lt_of_le_of_lt (le_ofDigitChars rest _) small
    rw [absorb, if_pos fits, ih small]

/-- A numeral of no more than 64 bits is its decimal, scaled. -/
theorem real?_eq_scale? {n : Numeral} (small : n.decimal.coefficient < UInt64.size) :
    n.real? = (scale? n.decimal.coefficient n.decimal.exponent).map fun x =>
      if n.negative then x.neg else x := by
  have together : n.decimal.coefficient =
      Nat.ofDigitChars 10 n.fraction (Nat.ofDigitChars 10 n.whole 0) :=
    Nat.ofDigitChars_append 0
  have front := absorb_eq (Nat.lt_of_le_of_lt (le_ofDigitChars n.fraction _) (together ▸ small))
  have back := absorb_eq (together ▸ small)
  have places : ((0 : Nat) : Int) - (n.fraction.length - 0 : Nat) + n.exponent?.getD 0 =
      n.decimal.exponent := by
    rw [decimal, Nat.sub_zero]
    dsimp only
    omega
  rw [real?, front]
  dsimp only
  rw [back]
  dsimp only [List.length_nil]
  rw [places, together]

/-! ## Powers of ten -/

theorem ofDecimal_power {k : Nat} (few : k ≤ 15) :
    Binary64.ofDecimal false ⟨1, k⟩ = Binary64.ofNat (10 ^ k) := by
  have all : ∀ k : Fin 16, Binary64.ofDecimal false ⟨1, k.val⟩ = Binary64.ofNat (10 ^ k.val) := by
    decide +kernel
  exact all ⟨k, Nat.lt_succ_of_le few⟩

theorem power_lt {k : Nat} (few : k ≤ 15) : 10 ^ k < 2 ^ 53 :=
  Nat.lt_of_le_of_lt (Nat.pow_le_pow_right (by decide) few) (by decide)

/-- Scaling a short integer by a short power of ten rounds once. -/
theorem scale?_of_short {c : Nat} {e : Int} {m : Magnitude} (small : c < 2 ^ 53) (low : -15 ≤ e)
    (high : e ≤ 15) (reads : Decimal.toMagnitude? ⟨c, e⟩ = some m) :
    scale? c e = some (.finite false m) := by
  have ratio := Decimal.ofRatio?_of_short small low high reads
  rcases Int.lt_or_le e 0 with below | above
  · obtain ⟨k, rfl⟩ : ∃ k : Nat, e = -(k : Int) := ⟨e.natAbs, by omega⟩
    have few : k ≤ 15 := by omega
    have up : (-(k : Int)).toNat = 0 := by omega
    have down : (-(-(k : Int))).toNat = k := by omega
    rw [Decimal.numerator, Decimal.denominator, up, down] at ratio
    have value : (Binary64.ofNat c).div (.ofDecimal false ⟨1, k⟩) = .finite false m := by
      rw [ofDecimal_power few, Binary64.div_ofNat small (Nat.pow_pos (by decide)) (power_lt few)]
      exact Binary64.ofRatio_of_magnitude (by simpa using ratio)
    rw [scale?, if_pos below, Int.natAbs_neg, Int.natAbs_natCast, scaleDown, if_pos (by omega),
      value]
  · obtain ⟨k, rfl⟩ : ∃ k : Nat, e = k := ⟨e.toNat, by omega⟩
    have few : k ≤ 15 := by omega
    have down : (-(k : Int)).toNat = 0 := by omega
    rw [Decimal.numerator, Decimal.denominator, Int.toNat_natCast, down] at ratio
    have value : (Binary64.ofNat c).mul (.ofDecimal false ⟨1, k⟩) = .finite false m := by
      rw [ofDecimal_power few, Binary64.mul_ofNat small (power_lt few), Binary64.ofNat]
      exact Binary64.ofRatio_of_magnitude ratio
    rw [scale?, if_neg (by omega), if_pos (by omega), value]
    rfl

/-- A numeral of few digits and places is read as the number nearest to its decimal. -/
theorem real?_of_short {n : Numeral} {m : Magnitude} (small : n.decimal.coefficient < 2 ^ 53)
    (low : -15 ≤ n.decimal.exponent) (high : n.decimal.exponent ≤ 15)
    (reads : n.decimal.toMagnitude? = some m) : n.real? = some (.finite n.negative m) := by
  have word : n.decimal.coefficient < UInt64.size := Nat.lt_trans small (by decide)
  rw [real?_eq_scale? word, scale?_of_short small low high reads, Option.map_some]
  cases n.negative <;> rfl

end Numeral

/-- A number whose shortest decimal makes an integer of 53 bits with a place behind it, and has at
most fifteen places. -/
def IsShort : Binary64 → Prop
  | .finite _ m =>
    let shortest := m.shortest NumberFormat.json.tie
    shortest.coefficient * 10 ^ (shortest.exponent + 1).toNat < 2 ^ 53 ∧ -15 ≤ shortest.exponent
  | _ => False

theorem readsBack_of_isShort {x : Binary64} (isShort : IsShort x) : ReadsBack x := by
  cases x with
  | nan => cases isShort
  | infinite negative => cases isShort
  | finite negative m =>
    obtain ⟨small, low⟩ := isShort
    by_cases zero : m.units = 0
    · obtain rfl := Magnitude.eq_zero_of_units zero
      cases negative <;> decide +kernel
    obtain ⟨n, k, d, positive, coefficient, ⟨numeral, read, -, sign, spelt⟩, reads, form⟩ :=
      Numeral.exists_spellsReal_magnitudeText negative zero
    generalize m.shortest NumberFormat.json.tie = shortest at low small coefficient form
    obtain ⟨c, exponent⟩ := shortest
    obtain rfl : c = n * 10 ^ k := coefficient
    dsimp only at low small form
    rw [Nat.mul_assoc, ← Nat.pow_add] at small
    have few : k + (exponent + 1).toNat < 16 := by
      have power := Nat.lt_of_le_of_lt (Nat.le_mul_of_pos_left _ positive) small
      exact (Nat.pow_lt_pow_iff_right (a := 10) (by decide)).1 (Nat.lt_trans power (by decide))
    have short : d.coefficient < 2 ^ 53 ∧ -15 ≤ d.exponent ∧ d.exponent ≤ 15 := by
      rcases form with rfl | ⟨integer, rfl⟩
      · refine ⟨Nat.lt_of_le_of_lt (Nat.le_mul_of_pos_right n (Nat.pow_pos (by decide))) small, ?_⟩
        dsimp only
        omega
      · refine ⟨Nat.lt_of_le_of_lt (Nat.mul_le_mul_left n ?_) small, ?_⟩
        · exact Nat.pow_le_pow_right (by decide) (by omega)
        · dsimp only
          omega
    subst spelt sign
    have text :
        Numeral.read? (NumberFormat.json.text (.finite numeral.negative m)) = some numeral := read
    rw [ReadsBack, text, Option.bind_some, Numeral.real?_of_short short.1 short.2.1 short.2.2 reads]

end Json

end SqlGrader
