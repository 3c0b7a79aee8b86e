import SqlGrader.Proofs.Binary64.ReadBack

/-!
# Integers among the numbers

Up to `2 ^ 53` every integer is a number of its own, and in plain notation the number is written as
the integer is: of the decimals that read back as it, one that is shorter than its digits leaves
out zeros only. Main statement: `exists_ofInt`.
-/

set_option autoImplicit false

namespace SqlGrader

namespace Magnitude

theorem log2_shifted {n : Nat} (positive : 0 < n) (k : Nat) : (n <<< k).log2 = n.log2 + k := by
  have nonzero : n <<< k ≠ 0 := by
    rw [Nat.shiftLeft_eq]
    exact Nat.ne_of_gt (Nat.mul_pos positive (Nat.two_pow_pos k))
  rw [Nat.log2_eq_iff nonzero, Nat.shiftLeft_eq, Nat.pow_add, Nat.add_right_comm, Nat.pow_add]
  obtain ⟨low, high⟩ := (Nat.log2_eq_iff (Nat.ne_of_gt positive)).1 (Eq.refl n.log2)
  exact ⟨Nat.mul_le_mul_right _ low, Nat.mul_lt_mul_of_pos_right high (Nat.two_pow_pos k)⟩

theorem exponentOf_shifted {n : Nat} (positive : 0 < n) (k : Nat) :
    exponentOf (n <<< k) 1 = n.log2 + k - 52 := by
  rw [exponentOf, Nat.div_one, log2_shifted positive]

/-- An integer of 53 bits is a magnitude in all units that are not too large. -/
theorem exists_ofRatio?_shifted {n k : Nat} (small : n < 2 ^ 53) (fits : k ≤ 2045) :
    ∃ m, ofRatio? (n <<< k) 1 = some m ∧ m.units = n <<< k := by
  have exponent : exponentOf (n <<< k) 1 ≤ k := by
    rcases Nat.eq_zero_or_pos n with rfl | positive
    · rw [Nat.zero_shiftLeft]
      exact Nat.zero_le k
    · have bits := (Nat.log2_lt (Nat.ne_of_gt positive)).2 small
      rw [exponentOf_shifted positive]
      omega
  generalize same : exponentOf (n <<< k) 1 = e at exponent
  have whole : n <<< k = n <<< (k - e) * 1 <<< e := by
    simp only [Nat.shiftLeft_eq, Nat.one_mul]
    rw [Nat.mul_assoc, ← Nat.pow_add, Nat.sub_add_cancel exponent]
  have positive : 0 < 1 <<< e := by
    rw [Nat.shiftLeft_eq, Nat.one_mul]
    exact Nat.two_pow_pos e
  have significand : significandOf (n <<< k) 1 = n <<< (k - e) := by
    rw [significandOf, same, whole, roundHalfEven_mul _ positive]
  have noCarry : significandOf (n <<< k) 1 < 1 <<< 53 := by
    have below := div_shiftLeft_lt (n <<< k) 1
    rw [same, whole, Nat.mul_div_cancel _ positive] at below
    rwa [significand]
  rw [ofRatio?, dif_neg (Nat.ne_of_lt noCarry), dif_pos (same ▸ Nat.le_trans exponent fits)]
  refine ⟨_, rfl, ?_⟩
  simp only [units, significand, same]
  rw [whole]
  simp only [Nat.shiftLeft_eq, Nat.one_mul]

/-- A ratio beyond the least exponent has a full significand. -/
theorem le_units_of_ofRatio? {num den : Nat} {m : Magnitude} (found : ofRatio? num den = some m)
    (h : exponentOf num den ≠ 0) : 2 ^ (52 + exponentOf num den) ≤ m.units := by
  unfold ofRatio? at found
  split at found
  · split at found
    · cases found
      have powers : 1 <<< 52 * 2 ^ (exponentOf num den + 1) = 2 ^ (53 + exponentOf num den) := by
        rw [Nat.shiftLeft_eq, Nat.one_mul, ← Nat.pow_add]
        congr 1
        omega
      simp only [units, Nat.shiftLeft_eq _ (exponentOf num den + 1), powers]
      exact Nat.pow_le_pow_right (by decide) (by omega)
    · cases found
  · split at found
    · cases found
      have full := le_significandOf num den h
      rw [Nat.shiftLeft_eq, Nat.one_mul] at full
      rw [units, Nat.shiftLeft_eq, Nat.pow_add]
      exact Nat.mul_le_mul_right _ full
    · cases found

/-- No other integer is rounded to an integer of 53 bits. -/
theorem eq_of_ofRatio?_shifted {n j k : Nat} (small : n < 2 ^ 53) (fits : k ≤ 2045)
    (same : ofRatio? (j <<< k) 1 = ofRatio? (n <<< k) 1) : j = n := by
  obtain ⟨m, found, exact⟩ := exists_ofRatio?_shifted small fits
  rw [found] at same
  by_cases few : j < 2 ^ 53
  · obtain ⟨other, otherFound, otherExact⟩ := exists_ofRatio?_shifted few fits
    obtain rfl : other = m := Option.some.inj (otherFound.symm.trans same)
    have shifted := otherExact.symm.trans exact
    rw [Nat.shiftLeft_eq, Nat.shiftLeft_eq] at shifted
    exact Nat.eq_of_mul_eq_mul_right (Nat.two_pow_pos k) shifted
  · have positive : 0 < j := by omega
    have bits : 53 ≤ j.log2 := (Nat.le_log2 (Nat.ne_of_gt positive)).2 (Nat.le_of_not_lt few)
    have above := le_units_of_ofRatio? same (by rw [exponentOf_shifted positive]; omega)
    rw [exponentOf_shifted positive] at above
    have below : m.units < 2 ^ (53 + k) := by
      rw [exact, Nat.shiftLeft_eq, Nat.pow_add]
      exact Nat.mul_lt_mul_of_pos_right small (Nat.two_pow_pos k)
    have powers : 2 ^ (53 + k) ≤ 2 ^ (52 + (j.log2 + k - 52)) :=
      Nat.pow_le_pow_right (by decide) (by omega)
    exact absurd (Nat.lt_of_le_of_lt (Nat.le_trans powers above) below) (Nat.lt_irrefl _)

theorem mul_shifted (n k : Nat) : n * 1 <<< k = n <<< k := by
  rw [Nat.shiftLeft_eq, Nat.shiftLeft_eq, Nat.one_mul]

theorem mul_one_eq_shifted (n : Nat) : n * one = n <<< 1074 :=
  mul_shifted n 1074

theorem one_pos : 0 < one := by
  decide +kernel

/-- An integer of 53 bits is a magnitude. -/
theorem exists_ofRatio?_integer {n : Nat} (small : n < 2 ^ 53) :
    ∃ m, ofRatio? (n * one) 1 = some m ∧ m.units = n * one := by
  rw [mul_one_eq_shifted]
  exact exists_ofRatio?_shifted small (by decide)

/-! ## Digits -/

theorem ofRatio?_of_toMagnitude? {k : Nat} {m : Magnitude}
    (found : Decimal.toMagnitude? ⟨k, 0⟩ = some m) : ofRatio? (k * one) 1 = some m := by
  by_cases short : Decimal.digitCount k ≤ 330
  · rw [← Binary64.toMagnitude?_integer short]
    exact found
  · unfold Decimal.toMagnitude? at found
    dsimp only at found
    split at found
    · rename_i few
      obtain rfl : k = 0 := few.resolve_right (by omega)
      exact absurd (by decide) short
    · rw [if_pos (by omega)] at found
      cases found

variable {m : Magnitude} {n : Nat}

theorem digitCount_scaled (positive : 0 < n) (k : Nat) :
    Decimal.digitCount (n * one * Nat.pow 10 k / one) = Decimal.digitCount n + k := by
  rw [Nat.mul_right_comm, Nat.mul_div_cancel _ one_pos]
  exact Decimal.digitCount_mul_pow positive k

theorem leadingExponent_integer (positive : 0 < n) (exact : m.units = n * one) :
    m.leadingExponent = (Decimal.digitCount n : Int) - 1 := by
  simp only [leadingExponent, exact, digitCount_scaled positive]
  omega

theorem exponent_of_nearest? {tie : TieRule} {count : Nat} {d : Decimal}
    (found : m.nearest? tie count = some d) : d.exponent = m.leadingExponent - count + 1 := by
  simp only [nearest?] at found
  split at found
  · split at found
    · split at found
      · cases found; rfl
      · split at found
        · cases found; rfl
        · split at found
          · cases found; rfl
          · cases found
            split <;> rfl
    · cases found; rfl
  · split at found
    · cases found; rfl
    · cases found

/-- A decimal that reads back as an integer and has no more digits is the integer. -/
theorem eq_of_nearest?_integer (positive : 0 < n) (small : n < 2 ^ 53)
    (exact : m.units = n * one) {tie : TieRule} {count : Nat} {d : Decimal}
    (few : count ≤ Decimal.digitCount n) (found : m.nearest? tie count = some d) :
    ∃ k : Nat, d.exponent = k ∧ d.coefficient * 10 ^ k = n := by
  have exponent := exponent_of_nearest? found
  rw [leadingExponent_integer positive exact] at exponent
  have reads : d.toMagnitude? = some m := of_decide_eq_true (reads_back_of_nearest? found)
  have itself : ofRatio? (n * one) 1 = some m := exact ▸ ofRatio?_units m
  obtain ⟨coefficient, power⟩ := d
  obtain ⟨k, rfl⟩ : ∃ k : Nat, power = k := by
    refine ⟨power.toNat, ?_⟩
    dsimp only at exponent
    omega
  refine ⟨k, rfl, eq_of_ofRatio?_shifted (k := 1074) small (by decide) ?_⟩
  rw [← mul_one_eq_shifted, ← mul_one_eq_shifted]
  rcases Nat.eq_zero_or_pos coefficient with rfl | some?
  · rw [Decimal.toMagnitude?_zero] at reads
    rw [itself, ← reads, Nat.zero_mul, Nat.zero_mul]
    rfl
  · rw [itself]
    refine ofRatio?_of_toMagnitude? ?_
    rw [Decimal.toMagnitude?_mul_pow some?, Int.zero_add]
    exact reads

theorem digitCount_le_sixteen (small : n < 2 ^ 53) : Decimal.digitCount n ≤ 16 := by
  have sixteen : Decimal.digitCount (2 ^ 53) = 16 := by decide +kernel
  exact sixteen ▸ Decimal.digitCount_le (Nat.le_of_lt small)

/-- The digits of an integer read back as it. -/
theorem toMagnitude?_of_units (small : n < 2 ^ 53) (exact : m.units = n * one) :
    Decimal.toMagnitude? ⟨n, 0⟩ = some m := by
  rw [Binary64.toMagnitude?_integer (Nat.le_trans (digitCount_le_sixteen small) (by decide)),
    ← exact, ofRatio?_units]

theorem exists_nearest?_integer (positive : 0 < n) (small : n < 2 ^ 53)
    (exact : m.units = n * one) (tie : TieRule) :
    ∃ d, m.nearest? tie (Decimal.digitCount n) = some d := by
  have step : m.leadingExponent - (Decimal.digitCount n : Int) + 1 = 0 := by
    rw [leadingExponent_integer positive exact]
    omega
  have digits :
      m.units * Nat.pow 10 (-(0 : Int)).toNat / (one * Nat.pow 10 (0 : Int).toNat) = n := by
    change m.units * 1 / (one * 1) = n
    rw [Nat.mul_one, Nat.mul_one, exact, Nat.mul_div_cancel n one_pos]
  have lower : m.readsBack ⟨n, 0⟩ = true :=
    decide_eq_true (toMagnitude?_of_units small exact)
  simp only [nearest?, step, digits, lower, if_true]
  split
  · split
    · exact ⟨_, rfl⟩
    · split
      · exact ⟨_, rfl⟩
      · split <;> exact ⟨_, rfl⟩
  · exact ⟨_, rfl⟩

/-- The shortest decimal of an integer is the integer, perhaps without zeros at its end. -/
theorem shortest_integer (positive : 0 < n) (small : n < 2 ^ 53) (exact : m.units = n * one)
    (tie : TieRule) :
    ∃ k : Nat, (m.shortest tie).exponent = k ∧ (m.shortest tie).coefficient * 10 ^ k = n := by
  have nonzero : m.units ≠ 0 := by
    rw [exact]
    exact Nat.ne_of_gt (Nat.mul_pos positive one_pos)
  have few := digitCount_le_sixteen small
  have some? : 0 < Decimal.digitCount n := Nat.length_toDigits_pos
  obtain ⟨d, own⟩ := exists_nearest?_integer positive small exact tie
  -- the search is over by the number of digits of the integer itself
  have early : ((List.range' 1 (Decimal.digitCount n)).findSome? (m.nearest? tie)).isSome := by
    rw [List.findSome?_isSome_iff]
    exact ⟨Decimal.digitCount n, List.mem_range'_1.2 ⟨some?, by omega⟩, by rw [own]; rfl⟩
  obtain ⟨found, first⟩ := Option.isSome_iff_exists.1 early
  have cut : List.range' 1 17 = List.range' 1 (Decimal.digitCount n) ++
      List.range' (1 + Decimal.digitCount n) (17 - Decimal.digitCount n) := by
    rw [List.range'_append_1]
    congr 1
    omega
  have shortest : m.shortest tie = found := by
    rw [Magnitude.shortest, if_neg nonzero, cut, List.findSome?_append, first]
    rfl
  obtain ⟨count, member, near⟩ := List.exists_of_findSome?_eq_some first
  rw [shortest]
  exact eq_of_nearest?_integer positive small exact
    (by have := (List.mem_range'_1.1 member).2; omega) near

end Magnitude

namespace NumberFormat

/-- Integers of 53 bits are written as themselves in plain notation. -/
theorem magnitudeText_integer {m : Magnitude} {n : Nat} (small : n < 2 ^ 53)
    (exact : m.units = n * Magnitude.one) : plain.magnitudeText m = Nat.toDigits 10 n := by
  rcases Nat.eq_zero_or_pos n with rfl | positive
  · rw [Nat.zero_mul] at exact
    rw [magnitudeText, if_pos exact]
    rfl
  · have nonzero : m.units ≠ 0 := by
      rw [exact]
      exact Nat.ne_of_gt (Nat.mul_pos positive Magnitude.one_pos)
    obtain ⟨k, exponent, value⟩ := Magnitude.shortest_integer positive small exact plain.tie
    rw [magnitudeText, if_neg nonzero]
    generalize m.shortest plain.tie = shortest at exponent value ⊢
    obtain ⟨coefficient, power⟩ := shortest
    dsimp only at exponent value ⊢
    subst exponent
    have some? : 0 < coefficient := by
      refine Nat.pos_of_ne_zero fun none? => ?_
      rw [none?, Nat.zero_mul] at value
      omega
    obtain ⟨significant, zeros, nonzero, rfl, digits⟩ := Text.dropTrailingZeros_toDigits some?
    have positional : ∀ lead, plain.positional lead = true := fun _ => rfl
    have pointZero : plain.pointZero = false := rfl
    simp only [digits, positional, pointZero, if_true]
    rw [← value, Nat.mul_assoc, ← Nat.pow_add, Text.toDigits_mul_pow nonzero,
      Text.toDigits_mul_pow nonzero]
    have first : 0 < (Nat.toDigits 10 significant).length := Nat.length_toDigits_pos
    rw [List.length_append, List.length_replicate]
    unfold positionalText
    rw [if_neg (by omega)]
    dsimp only
    rw [if_pos (by omega)]
    simp only [Bool.false_eq_true, if_false, List.append_nil]
    congr 2
    omega

end NumberFormat

/-- The first magnitude whose neighbours are two apart. -/
theorem exists_integer_limit :
    ∃ m, Magnitude.ofRatio? (2 ^ 53 * Magnitude.one) 1 = some m ∧
      m.units = 2 ^ 53 * Magnitude.one ∧
      NumberFormat.plain.magnitudeText m = Nat.toDigits 10 (2 ^ 53) := by
  refine ⟨⟨1 <<< 52, 1075, by decide, by decide, .inr (Nat.le_refl _)⟩, ?_⟩
  decide +kernel

namespace Binary64

theorem text_of_magnitudeText {i : Int} {m : Magnitude}
    (digits : NumberFormat.plain.magnitudeText m = Nat.toDigits 10 i.natAbs) :
    NumberFormat.plain.text (.finite (i < 0) m) = Text.integerText i := by
  rw [NumberFormat.text, digits, Text.integerText]
  by_cases negative : i < 0 <;> simp [negative]

/-- Up to `2 ^ 53` an integer is a number of its own that is written as the integer is. -/
theorem exists_ofInt {i : Int} (small : i.natAbs ≤ 2 ^ 53) :
    ∃ m, ofInt i = .finite (i < 0) m ∧ m.units = i.natAbs * Magnitude.one ∧
      NumberFormat.plain.text (.finite (i < 0) m) = Text.integerText i := by
  have found : ∃ m, Magnitude.ofRatio? (i.natAbs * Magnitude.one) 1 = some m ∧
      m.units = i.natAbs * Magnitude.one ∧
      NumberFormat.plain.magnitudeText m = Nat.toDigits 10 i.natAbs := by
    rcases Nat.lt_or_eq_of_le small with below | limit
    · obtain ⟨m, found, exact⟩ := Magnitude.exists_ofRatio?_integer below
      exact ⟨m, found, exact, NumberFormat.magnitudeText_integer below exact⟩
    · rw [limit]
      exact exists_integer_limit
  obtain ⟨m, found, exact, digits⟩ := found
  exact ⟨m, ofRatio_of_magnitude found, exact, text_of_magnitudeText digits⟩

end Binary64

end SqlGrader
