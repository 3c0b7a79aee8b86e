import Mathlib.Tactic.Ring
import SqlGrader.Proofs.Binary64.Rounding
import SqlGrader.Proofs.Text.DecimalDigits
import SqlGrader.Proofs.Text.LongestFront

/-!
# Numbers read back

A number in plain notation is read back as that number. Its shortest decimal reads back
(`toMagnitude?_shortest`), factors of ten may move between the coefficient and the exponent of a
decimal (`toMagnitude?_mul_pow`), and positional notation is nothing but such a move. Main
statements: the two forms of a magnitude in plain notation (`magnitudeText_plain`), and what is
read from a text of either form (`read?_digits`, `read?_places`).
-/

set_option autoImplicit false

namespace SqlGrader

namespace Decimal

theorem digitCount_le {m n : Nat} (h : m ≤ n) : digitCount m ≤ digitCount n := by
  have positive : 0 < digitCount n := Nat.length_toDigits_pos
  refine (Nat.length_toDigits_le_iff (by decide) positive).2 (Nat.lt_of_le_of_lt h ?_)
  exact (Nat.length_toDigits_le_iff (by decide) positive).1 (Nat.le_refl _)

theorem digitCount_mul_pow {n : Nat} (positive : 0 < n) (k : Nat) :
    digitCount (n * 10 ^ k) = digitCount n + k := by
  rw [digitCount, Text.toDigits_mul_pow positive, List.length_append, List.length_replicate,
    digitCount]

theorem denominator_pos (d : Decimal) : 0 < d.denominator :=
  Nat.pow_pos (by decide)

theorem toMagnitude?_zero (exponent : Int) : toMagnitude? ⟨0, exponent⟩ = some .zero := by
  rw [toMagnitude?, if_pos (.inl rfl)]

/-- Factors of ten count the same in the coefficient as in the exponent. -/
theorem toMagnitude?_mul_pow {n : Nat} (positive : 0 < n) (exponent : Int) (k : Nat) :
    toMagnitude? ⟨n * 10 ^ k, exponent⟩ = toMagnitude? ⟨n, exponent + k⟩ := by
  have nonzero : n * 10 ^ k ≠ 0 := Nat.ne_of_gt (Nat.mul_pos positive (Nat.pow_pos (by decide)))
  have top : exponent + ((digitCount n + k : Nat) : Int) = exponent + k + digitCount n := by omega
  have powers : k + exponent.toNat + (-(exponent + k)).toNat =
      (exponent + k).toNat + (-exponent).toNat := by omega
  have cross : numerator ⟨n * 10 ^ k, exponent⟩ * denominator ⟨n, exponent + k⟩ =
      numerator ⟨n, exponent + k⟩ * denominator ⟨n * 10 ^ k, exponent⟩ := by
    simp only [numerator, denominator, Nat.pow_eq]
    calc n * 10 ^ k * 10 ^ exponent.toNat * Magnitude.one * 10 ^ (-(exponent + k)).toNat
      _ = n * Magnitude.one * 10 ^ (k + exponent.toNat + (-(exponent + k)).toNat) := by
        rw [Nat.pow_add, Nat.pow_add]
        ring
      _ = n * 10 ^ (exponent + k).toNat * Magnitude.one * 10 ^ (-exponent).toNat := by
        rw [powers, Nat.pow_add]
        ring
  have ratio := Magnitude.ofRatio?_eq_of_cross (denominator_pos _) (denominator_pos _) cross
  simp only [toMagnitude?, nonzero, Nat.ne_of_gt positive, digitCount_mul_pow positive, top,
    false_or, ratio]

end Decimal

namespace Magnitude

theorem units_lt (m : Magnitude) {k : Nat} (h : 53 + m.exponent ≤ k) : m.units < 1 <<< k := by
  have small := m.significand_lt
  rw [Nat.shiftLeft_eq, Nat.one_mul] at small ⊢
  rw [units, Nat.shiftLeft_eq]
  calc m.significand * 2 ^ m.exponent
    _ < 2 ^ 53 * 2 ^ m.exponent := Nat.mul_lt_mul_of_pos_right small (Nat.two_pow_pos _)
    _ = 2 ^ (53 + m.exponent) := (Nat.pow_add 2 53 m.exponent).symm
    _ ≤ 2 ^ k := Nat.pow_le_pow_right (by decide) h

theorem units_lt_limit (m : Magnitude) : m.units < limit :=
  m.units_lt (Nat.add_le_add_left m.exponent_le 53)

/-- Units are a decimal when the places behind the point make up one of them. -/
theorem ofRatio?_decimal (m : Magnitude) {scale places : Nat}
    (ten : Nat.pow 10 places = scale * one) :
    ofRatio? (Decimal.numerator ⟨m.units * scale, -(places : Int)⟩)
      (Decimal.denominator ⟨m.units * scale, -(places : Int)⟩) = some m := by
  rw [← ofRatio?_units m]
  refine ofRatio?_eq_of_cross (Decimal.denominator_pos _) (by decide) ?_
  have up : (-(places : Int)).toNat = 0 := by omega
  have down : (-(-(places : Int))).toNat = places := by omega
  have none? : Nat.pow 10 0 = 1 := rfl
  rw [Decimal.numerator, Decimal.denominator, up, down, none?, ten, Nat.mul_one, Nat.mul_one,
    Nat.mul_assoc]

/-- The power of five that makes a decimal of the least unit, and its size. -/
theorem five_pow : 0 < Nat.pow 5 1074 ∧ Nat.pow 10 1074 = Nat.pow 5 1074 * one ∧
    743 < Decimal.digitCount (Nat.pow 5 1074) ∧
    Decimal.digitCount (limit * Nat.pow 5 1074) ≤ 1404 := by
  decide +kernel

/-- All digits of the units read back. -/
theorem toMagnitude?_units {m : Magnitude} (nonzero : m.units ≠ 0) :
    Decimal.toMagnitude? ⟨m.units * Nat.pow 5 1074, -1074⟩ = some m := by
  obtain ⟨some?, ten, low, high⟩ := five_pow
  generalize Nat.pow 5 1074 = fives at some? ten low high ⊢
  have many : 743 < Decimal.digitCount (m.units * fives) :=
    Nat.lt_of_lt_of_le low
      (Decimal.digitCount_le (Nat.le_mul_of_pos_left fives (Nat.pos_of_ne_zero nonzero)))
  have few : Decimal.digitCount (m.units * fives) ≤ 1404 :=
    Nat.le_trans
      (Decimal.digitCount_le (Nat.mul_le_mul_right fives (Nat.le_of_lt m.units_lt_limit))) high
  have ratio := ofRatio?_decimal m ten
  have coefficient : m.units * fives ≠ 0 := Nat.mul_ne_zero nonzero (Nat.ne_of_gt some?)
  simp only [Decimal.toMagnitude?]
  rw [if_neg (by omega), if_neg (by omega)]
  exact ratio

/-- The shortest decimal of a magnitude reads back. -/
theorem toMagnitude?_shortest (tie : TieRule) {m : Magnitude} (nonzero : m.units ≠ 0) :
    (m.shortest tie).toMagnitude? = some m := by
  rw [shortest, if_neg nonzero]
  cases found : (List.range' 1 17).findSome? (m.nearest? tie) with
  | none => exact toMagnitude?_units nonzero
  | some d =>
    obtain ⟨count, -, near⟩ := List.exists_of_findSome?_eq_some found
    exact of_decide_eq_true (reads_back_of_nearest? near)

/-- The shortest decimal of a nonzero magnitude is not zero. -/
theorem coefficient_pos (tie : TieRule) {m : Magnitude} (nonzero : m.units ≠ 0) :
    0 < (m.shortest tie).coefficient := by
  have reads := toMagnitude?_shortest tie nonzero
  refine Nat.pos_of_ne_zero fun zero => nonzero ?_
  generalize m.shortest tie = shortest at reads zero
  obtain ⟨coefficient, exponent⟩ := shortest
  subst zero
  rw [Decimal.toMagnitude?_zero] at reads
  cases reads
  rfl

theorem eq_zero_of_units {m : Magnitude} (h : m.units = 0) : m = .zero := by
  obtain ⟨s, e, small, bound, normal⟩ := m
  obtain rfl : s = 0 := by
    rw [units, Nat.shiftLeft_eq] at h
    exact (Nat.mul_eq_zero.1 h).resolve_right (Nat.ne_of_gt (Nat.two_pow_pos e))
  obtain rfl : e = 0 := normal.resolve_right (by decide)
  rfl

end Magnitude

/-! ## Plain notation -/

/-- A text of digits with a decimal point among them. -/
structure Places (text whole places : List Char) : Prop where
  form : text = whole ++ '.' :: places
  nonempty : whole ≠ []
  front : ∀ c ∈ whole, c.isDigit = true
  back : ∀ c ∈ places, c.isDigit = true

namespace NumberFormat

theorem isDigit_of_mem_zeros {n : Nat} {c : Char} (h : c ∈ List.replicate n '0') :
    c.isDigit = true := by
  rw [List.eq_of_mem_replicate h]
  decide

/-- Digits in their places are the digits of an integer or have a decimal point among them, and
in both cases they spell the value of the digits at their power of ten. -/
theorem positionalText_digits {n : Nat} (positive : 0 < n) (exponent : Int) :
    let digits := Nat.toDigits 10 n
    let text := positionalText false digits (exponent + digits.length - 1)
    (∃ whole, text = Nat.toDigits 10 whole ∧
        Decimal.toMagnitude? ⟨whole, 0⟩ = Decimal.toMagnitude? ⟨n, exponent⟩) ∨
      ∃ whole places, Places text whole places ∧
        (⟨Nat.ofDigitChars 10 (whole ++ places) 0, -(places.length : Int)⟩ : Decimal) =
          ⟨n, exponent⟩ := by
  dsimp only
  have value := Nat.ofDigitChars_ten_toDigits (n := n)
  have some? : 0 < (Nat.toDigits 10 n).length := Nat.length_toDigits_pos
  have isDigit : ∀ c ∈ Nat.toDigits 10 n, c.isDigit = true := fun c => Text.isDigit_of_mem_toDigits
  generalize digits : Nat.toDigits 10 n = ds at value some? isDigit ⊢
  generalize first : exponent + ds.length - 1 = lead
  unfold positionalText
  split
  · rename_i small
    refine .inr ⟨['0'], List.replicate (-lead - 1).toNat '0' ++ ds,
      ⟨by simp, by simp, List.all_eq_true.1 (by decide), ?_⟩, ?_⟩
    · intro c member
      rcases List.mem_append.1 member with zero | digit
      · exact isDigit_of_mem_zeros zero
      · exact isDigit c digit
    · have zeros : ['0'] ++ (List.replicate (-lead - 1).toNat '0' ++ ds) =
          List.replicate ((-lead - 1).toNat + 1) '0' ++ ds := by
        rw [List.replicate_succ]
        rfl
      rw [zeros, Nat.ofDigitChars_append, Nat.ofDigitChars_replicate_zero, Nat.mul_zero, value,
        List.length_append, List.length_replicate]
      congr 1
      omega
  · rename_i large
    dsimp only
    split
    · rename_i fits
      obtain ⟨k, rfl⟩ : ∃ k : Nat, exponent = k := ⟨exponent.toNat, by omega⟩
      have zeros : lead.toNat + 1 - ds.length = k := by omega
      refine .inl ⟨n * 10 ^ k, ?_, ?_⟩
      · rw [Text.toDigits_mul_pow positive, digits, zeros]
        simp
      · rw [Decimal.toMagnitude?_mul_pow positive, Int.zero_add]
    · rename_i long
      refine .inr ⟨ds.take (lead.toNat + 1), ds.drop (lead.toNat + 1), ⟨rfl, ?_, ?_, ?_⟩, ?_⟩
      · simp [← List.length_eq_zero_iff]
        omega
      · exact fun c member => isDigit c (List.mem_of_mem_take member)
      · exact fun c member => isDigit c (List.mem_of_mem_drop member)
      · rw [List.take_append_drop, value, List.length_drop]
        congr 1
        omega

/-- A magnitude in plain notation is the digits of an integer or has a decimal point among its
digits, and in both cases the decimal that it spells reads back. -/
theorem magnitudeText_plain (m : Magnitude) :
    (∃ whole, plain.magnitudeText m = Nat.toDigits 10 whole ∧
        Decimal.toMagnitude? ⟨whole, 0⟩ = some m) ∨
      ∃ whole places, Places (plain.magnitudeText m) whole places ∧
        Decimal.toMagnitude? ⟨Nat.ofDigitChars 10 (whole ++ places) 0, -(places.length : Int)⟩ =
          some m := by
  unfold magnitudeText
  split
  · rename_i zero
    obtain rfl := Magnitude.eq_zero_of_units zero
    exact .inl ⟨0, rfl, rfl⟩
  · rename_i nonzero
    have reads := Magnitude.toMagnitude?_shortest plain.tie nonzero
    have positive := Magnitude.coefficient_pos plain.tie nonzero
    generalize m.shortest plain.tie = shortest at reads positive ⊢
    obtain ⟨coefficient, exponent⟩ := shortest
    obtain ⟨n, k, some?, rfl, significant⟩ := Text.dropTrailingZeros_toDigits positive
    have lead : exponent + (Nat.toDigits 10 (n * 10 ^ k)).length - 1 =
        exponent + k + (Nat.toDigits 10 n).length - 1 := by
      rw [Text.toDigits_mul_pow some?, List.length_append, List.length_replicate]
      omega
    rw [Decimal.toMagnitude?_mul_pow some?] at reads
    have positional : plain.positional (exponent + k + (Nat.toDigits 10 n).length - 1) = true := rfl
    have pointZero : plain.pointZero = false := rfl
    simp only [significant, lead, positional, pointZero, if_true]
    have forms := positionalText_digits some? (exponent + k)
    dsimp only at forms
    rcases forms with ⟨whole, text, same⟩ | ⟨whole, places, form, same⟩
    · exact .inl ⟨whole, text, same.trans reads⟩
    · exact .inr ⟨whole, places, form, same ▸ reads⟩

end NumberFormat

/-! ## Reading -/

namespace Decimal

theorem splitDigits_append {digits : List Char} (rest : List Char)
    (inside : ∀ c ∈ digits, c.isDigit = true)
    (stop : ∀ c, rest.head? = some c → c.isDigit = false) :
    splitDigits (digits ++ rest) = (digits, rest) := by
  obtain ⟨front, back⟩ := Text.takeWhile_front rest inside stop
  rw [splitDigits, front, back]

theorem read?_digits {digits : List Char} (nonempty : digits ≠ [])
    (inside : ∀ c ∈ digits, c.isDigit = true) :
    read? digits = some ⟨Nat.ofDigitChars 10 digits 0, 0⟩ := by
  have cut := splitDigits_append [] inside (by simp)
  rw [List.append_nil] at cut
  simp [read?, cut, nonempty, readExponent?]

theorem read?_places {text whole places : List Char} (h : Places text whole places) :
    read? text = some ⟨Nat.ofDigitChars 10 (whole ++ places) 0, -(places.length : Int)⟩ := by
  obtain ⟨rfl, nonempty, front, back⟩ := h
  have cut := splitDigits_append ('.' :: places) front (by simp)
  have cut' := splitDigits_append [] back (by simp)
  rw [List.append_nil] at cut'
  simp [read?, cut, cut', nonempty, readExponent?]

end Decimal

namespace Binary64

/-- The number nearest to an integer is the one that its digits spell. -/
theorem toMagnitude?_integer {n : Nat} (short : Decimal.digitCount n ≤ 330) :
    Decimal.toMagnitude? ⟨n, 0⟩ = Magnitude.ofRatio? (n * Magnitude.one) 1 := by
  have numerator : Decimal.numerator ⟨n, 0⟩ = n * Magnitude.one := by
    simp [Decimal.numerator]
  have denominator : Decimal.denominator ⟨n, 0⟩ = 1 := rfl
  simp only [Decimal.toMagnitude?, numerator, denominator]
  by_cases zero : n = 0
  · subst zero
    rw [if_pos (.inl rfl), Nat.zero_mul]
    exact (Magnitude.ofRatio?_units .zero).symm
  · rw [if_neg (by omega), if_neg (by omega)]

theorem ofRatio_of_magnitude {negative : Bool} {num den : Nat} {m : Magnitude}
    (h : Magnitude.ofRatio? num den = some m) : ofRatio negative num den = .finite negative m := by
  unfold ofRatio
  rw [h]

/-- The number nearest to an integer has the magnitude of its digits. -/
theorem ofInt_of_magnitude {i : Int} {m : Magnitude}
    (short : Decimal.digitCount i.natAbs ≤ 330)
    (reads : Decimal.toMagnitude? ⟨i.natAbs, 0⟩ = some m) :
    ofInt i = .finite (decide (i < 0)) m := by
  rw [toMagnitude?_integer short] at reads
  rw [ofInt]
  exact ofRatio_of_magnitude reads

/-- A text that begins with a digit has no sign and is no word. -/
theorem read?_of_digit {c : Char} {rest : List Char} (digit : c.isDigit = true) :
    read? (c :: rest) = (Decimal.read? (c :: rest)).map (ofDecimal false) := by
  have unsigned : Text.splitSign (c :: rest) = (false, c :: rest) := by
    unfold Text.splitSign
    split
    · rename_i first
      cases first
      cases digit
    · rename_i first
      cases first
      cases digit
    · rfl
  have lower : c.toLower = c := by
    unfold Char.toLower
    apply dif_neg
    intro upper
    simp only [Char.isDigit, Bool.and_eq_true, decide_eq_true_eq] at digit
    have least := UInt32.le_trans upper.1 digit.2
    revert least
    decide
  have different : ∀ {d : Char} {word : List Char}, d.isDigit = false →
      String.ofList ((c :: rest).map Char.toLower) ≠ String.ofList (d :: word) := by
    intro d word letter same
    rw [String.ofList_inj, List.map_cons, lower] at same
    obtain ⟨rfl, -⟩ := List.cons.inj same
    rw [digit] at letter
    cases letter
  have notInf : String.ofList ((c :: rest).map Char.toLower) ≠ "inf" := different (d := 'i') rfl
  have notInfinity : String.ofList ((c :: rest).map Char.toLower) ≠ "infinity" :=
    different (d := 'i') rfl
  have notNan : String.ofList ((c :: rest).map Char.toLower) ≠ "nan" := different (d := 'n') rfl
  simp only [read?, unsigned, notInf, notInfinity, notNan, or_self, if_false]

end Binary64

end SqlGrader
