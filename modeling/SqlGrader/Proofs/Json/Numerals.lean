import SqlGrader.Json.Value
import SqlGrader.Proofs.Binary64.ReadBack

/-!
# Numerals read back

A numeral is read as the parts that it is put together from (`read?_parts`). An integer is written
without a fraction and an exponent, and so is read as itself (`number?_integerText`); a number of
the format is written with one of them, and so is never read as an integer (`number?_text`).
-/

set_option autoImplicit false

namespace SqlGrader

namespace Text

/-- The digits of a number do not begin with a zero. -/
theorem head?_toDigits {n : Nat} (positive : 0 < n) : (Nat.toDigits 10 n).head? ≠ some '0' := by
  induction n using Nat.strongRecOn with
  | ind n ih =>
    rw [Nat.toDigits_eq_if (by decide)]
    split
    · rename_i small
      intro zero
      have digit : Nat.digitChar n = '0' := by simpa using zero
      rw [Nat.digitChar_eq_zero] at digit
      omega
    · rename_i large
      have tenth := ih (n / 10) (by omega) (by omega)
      rw [List.head?_append]
      cases digits : Nat.toDigits 10 (n / 10) with
      | nil => exact absurd digits Nat.toDigits_ne_nil
      | cons c rest =>
        rw [digits] at tenth
        exact tenth

end Text

namespace Json

open SqlGrader.Text (isDigit_of_mem_toDigits head?_toDigits toDigits_mul_pow)

namespace Numeral

theorem isWhole_cons {c : Char} (nonzero : c ≠ '0') (rest : List Char) :
    isWhole (c :: rest) = true := by
  unfold isWhole
  split
  · rename_i same
    cases same
  · rfl
  · rename_i same
    cases same
    exact decide_eq_true nonzero

theorem isWhole_digit (c : Char) : isWhole [c] = true := by
  by_cases zero : c = '0'
  · rw [zero]
    rfl
  · exact isWhole_cons zero []

theorem isWhole_toDigits (n : Nat) : isWhole (Nat.toDigits 10 n) = true := by
  rcases Nat.eq_zero_or_pos n with rfl | positive
  · rfl
  · have nonzero := head?_toDigits positive
    obtain ⟨c, rest, digits⟩ := List.exists_cons_of_ne_nil (Nat.toDigits_ne_nil (n := n) (b := 10))
    rw [digits] at nonzero ⊢
    exact isWhole_cons (fun zero => nonzero (congrArg some zero)) rest

def signText (negative : Bool) : List Char :=
  if negative then ['-'] else []

def fractionText (fraction : List Char) : List Char :=
  if fraction = [] then [] else '.' :: fraction

theorem readFraction?_fractionText {fraction rest : List Char}
    (digits : ∀ c ∈ fraction, c.isDigit = true)
    (stop : ∀ c, rest.head? = some c → c.isDigit = false ∧ c ≠ '.') :
    readFraction? (fractionText fraction ++ rest) = some (fraction, rest) := by
  unfold fractionText
  split
  · rename_i none?
    subst none?
    rw [List.nil_append]
    unfold readFraction?
    split
    · exact absurd rfl (stop '.' rfl).2
    · rfl
  · rename_i some?
    have cut := Decimal.splitDigits_append rest digits fun c next => (stop c next).1
    simp only [List.cons_append, readFraction?, cut, some?, if_false]

/-- A numeral is read as its parts. -/
theorem read?_parts (negative : Bool) {whole fraction power : List Char}
    {exponent? : Option Int} (first : isWhole whole = true)
    (digits : ∀ c ∈ whole, c.isDigit = true) (places : ∀ c ∈ fraction, c.isDigit = true)
    (stop : ∀ c, power.head? = some c → c.isDigit = false ∧ c ≠ '.')
    (reads : readPower? power = some exponent?) :
    read? (signText negative ++ (whole ++ (fractionText fraction ++ power))) =
      some ⟨negative, whole, fraction, exponent?⟩ := by
  have behind : ∀ c, (fractionText fraction ++ power).head? = some c → c.isDigit = false := by
    unfold fractionText
    split
    · exact fun c next => (stop c next).1
    · intro c next
      cases next
      decide
  have cut := Decimal.splitDigits_append (fractionText fraction ++ power) digits behind
  have fractionRead := readFraction?_fractionText places stop
  cases negative with
  | true => simp [signText, read?, cut, first, fractionRead, reads]
  | false =>
    obtain ⟨c, rest, rfl⟩ : ∃ c rest, whole = c :: rest := by
      cases whole with
      | nil => cases first
      | cons c rest => exact ⟨c, rest, rfl⟩
    have minus : c ≠ '-' := by
      rintro rfl
      exact absurd (digits '-' List.mem_cons_self) (by decide)
    rw [List.cons_append] at cut
    simp [signText, read?, minus, cut, first, fractionRead, reads]

theorem read?_integerText (i : Int) :
    read? (Text.integerText i) = some ⟨decide (i < 0), Nat.toDigits 10 i.natAbs, [], none⟩ := by
  have digits : ∀ c ∈ Nat.toDigits 10 i.natAbs, c.isDigit = true := fun _ => isDigit_of_mem_toDigits
  have parts := @read?_parts (decide (i < 0)) _ [] [] none (isWhole_toDigits i.natAbs) digits
    (List.forall_mem_nil _) (by simp) rfl
  have text : Text.integerText i = signText (decide (i < 0)) ++
      (Nat.toDigits 10 i.natAbs ++ (fractionText [] ++ [])) := by
    by_cases negative : i < 0 <;> simp [Text.integerText, signText, fractionText, negative]
  rw [text, parts]

/-! ## Numbers of the format -/

/-- A numeral that does not stand for an integer. -/
def IsReal (n : Numeral) : Prop :=
  n.fraction ≠ [] ∨ n.exponent? ≠ none

theorem value?_of_isReal {n : Numeral} (h : n.IsReal) : n.value? = n.real?.map .real := by
  have notInteger : ¬ (n.fraction = [] ∧ n.exponent? = none) := by
    rintro ⟨whole, integral⟩
    exact h.elim (· whole) (· integral)
  rw [value?, if_neg notInteger]

/-- Digits with a point among them are read as a whole and a fraction. -/
theorem read?_point (negative : Bool) {whole fraction : List Char} (first : isWhole whole = true)
    (digits : ∀ c ∈ whole, c.isDigit = true) (places : ∀ c ∈ fraction, c.isDigit = true)
    (some? : fraction ≠ []) :
    read? (signText negative ++ (whole ++ '.' :: fraction)) =
      some ⟨negative, whole, fraction, none⟩ := by
  have parts := @read?_parts negative whole fraction [] none first digits places (by simp) rfl
  rwa [fractionText, if_neg some?, List.append_nil] at parts

/-- A power of ten is written with its sign and read with it. -/
theorem readPower?_text (lead : Int) :
    readPower? ('e' :: (if lead < 0 then ['-'] else ['+']) ++ Nat.toDigits 10 lead.natAbs) =
      some (some lead) := by
  have value := Text.readDigits?_toDigits lead.natAbs
  by_cases below : lead < 0
  · have back : -(lead.natAbs : Int) = lead := by omega
    rw [if_pos below]
    simp only [List.cons_append, List.nil_append, readPower?, Text.readInt?, Text.splitSign, value,
      true_or, if_true, Option.bind_eq_bind, Option.bind_some, Option.pure_def, Option.map_some,
      back]
  · have back : (lead.natAbs : Int) = lead := by omega
    rw [if_neg below]
    simp only [List.cons_append, List.nil_append, readPower?, Text.readInt?, Text.splitSign, value,
      true_or, if_true, Option.bind_eq_bind, Option.bind_some, Option.pure_def, Option.map_some,
      Bool.false_eq_true, if_false, back]

/-- The decimal that a numeral spells, without its sign. -/
def decimal (n : Numeral) : Decimal :=
  ⟨Nat.ofDigitChars 10 (n.whole ++ n.fraction) 0, n.exponent?.getD 0 - n.fraction.length⟩

/-- A text that is a numeral, but not that of an integer, with its sign and its decimal. -/
def SpellsReal (text : List Char) (negative : Bool) (d : Decimal) : Prop :=
  ∃ numeral, read? text = some numeral ∧ numeral.IsReal ∧ numeral.negative = negative ∧
    numeral.decimal = d

theorem spellsReal_point (negative : Bool) {whole fraction : List Char}
    (first : isWhole whole = true) (digits : ∀ c ∈ whole, c.isDigit = true)
    (places : ∀ c ∈ fraction, c.isDigit = true) (some? : fraction ≠ []) :
    SpellsReal (signText negative ++ (whole ++ '.' :: fraction)) negative
      ⟨Nat.ofDigitChars 10 (whole ++ fraction) 0, -(fraction.length : Int)⟩ := by
  refine ⟨_, read?_point negative first digits places some?, .inl some?, rfl, ?_⟩
  rw [decimal, Option.getD_none, Int.zero_sub]

variable {n : Nat} (negative : Bool)

/-- Positional notation spells its decimal, or with a fraction of zero that of an integer. -/
theorem spellsReal_positionalText (positive : 0 < n) (exponent : Int) :
    SpellsReal (signText negative ++ NumberFormat.positionalText true (Nat.toDigits 10 n)
        (exponent + (Nat.toDigits 10 n).length - 1)) negative
      (if 0 ≤ exponent then ⟨n * 10 ^ (exponent.toNat + 1), -1⟩ else ⟨n, exponent⟩) := by
  have digits : ∀ c ∈ Nat.toDigits 10 n, c.isDigit = true := fun _ => isDigit_of_mem_toDigits
  have value := Nat.ofDigitChars_ten_toDigits (n := n)
  have length : 0 < (Nat.toDigits 10 n).length := Nat.length_toDigits_pos
  generalize above : exponent + (Nat.toDigits 10 n).length - 1 = lead
  unfold NumberFormat.positionalText
  split
  · rename_i small
    have places : ∀ c ∈ List.replicate (-lead - 1).toNat '0' ++ Nat.toDigits 10 n,
        c.isDigit = true := by
      intro c member
      rcases List.mem_append.1 member with zero | digit
      · exact NumberFormat.isDigit_of_mem_zeros zero
      · exact digits c digit
    have some? : List.replicate (-lead - 1).toNat '0' ++ Nat.toDigits 10 n ≠ [] :=
      List.append_ne_nil_of_right_ne_nil _ Nat.toDigits_ne_nil
    have spells := @spellsReal_point negative ['0'] _ rfl (List.all_eq_true.1 (by decide)) places
      some?
    have zeros : Nat.ofDigitChars 10 ['0'] 0 = 0 := rfl
    have back : -(((-lead - 1).toNat + (Nat.toDigits 10 n).length : Nat) : Int) = exponent := by
      omega
    rw [Nat.ofDigitChars_append, zeros, Nat.ofDigitChars_append, Nat.ofDigitChars_replicate_zero,
      Nat.mul_zero, value, List.length_append, List.length_replicate, back] at spells
    rw [if_neg (by omega)]
    exact spells
  · rename_i large
    dsimp only
    split
    · rename_i fits
      have zeros : lead.toNat + 1 - (Nat.toDigits 10 n).length = exponent.toNat := by omega
      have some? : ['0'] ≠ [] := List.cons_ne_nil _ _
      have spells := spellsReal_point negative (isWhole_toDigits (n * 10 ^ exponent.toNat))
        (fun _ => isDigit_of_mem_toDigits) (List.all_eq_true.1 (by decide)) some?
      have tenth : Nat.ofDigitChars 10 ['0'] (n * 10 ^ exponent.toNat) =
          n * 10 ^ (exponent.toNat + 1) := by
        rw [Nat.ofDigitChars_cons, Nat.ofDigitChars_nil, Nat.pow_succ, Nat.sub_self, Nat.add_zero,
          Nat.mul_comm 10, Nat.mul_assoc]
      rw [Nat.ofDigitChars_append, Nat.ofDigitChars_ten_toDigits, tenth,
        toDigits_mul_pow positive] at spells
      have integer : 0 ≤ exponent := by omega
      rw [zeros, if_pos integer]
      exact spells
    · rename_i long
      have front : isWhole ((Nat.toDigits 10 n).take (lead.toNat + 1)) = true := by
        have nonzero := head?_toDigits positive
        cases same : Nat.toDigits 10 n with
        | nil => exact absurd same Nat.toDigits_ne_nil
        | cons c rest =>
          rw [same] at nonzero
          exact isWhole_cons (fun zero => nonzero (congrArg some zero)) _
      have some? : (Nat.toDigits 10 n).drop (lead.toNat + 1) ≠ [] := by
        rw [ne_eq, List.drop_eq_nil_iff]
        exact long
      have spells := spellsReal_point negative front
        (fun c member => digits c (List.mem_of_mem_take member))
        (fun c member => digits c (List.mem_of_mem_drop member)) some?
      have back : -(((Nat.toDigits 10 n).length - (lead.toNat + 1) : Nat) : Int) = exponent := by
        omega
      rw [List.take_append_drop, value, List.length_drop, back] at spells
      rw [if_neg (by omega)]
      exact spells

/-- Exponential notation spells its decimal. -/
theorem spellsReal_exponentText (lead : Int) :
    SpellsReal (signText negative ++ NumberFormat.exponentText true (Nat.toDigits 10 n) lead)
      negative ⟨n, lead + 1 - (Nat.toDigits 10 n).length⟩ := by
  have digits : ∀ c ∈ Nat.toDigits 10 n, c.isDigit = true := fun _ => isDigit_of_mem_toDigits
  have value := Nat.ofDigitChars_ten_toDigits (n := n)
  have power := readPower?_text lead
  have stop : ∀ c, ('e' :: (if lead < 0 then ['-'] else ['+']) ++
      Nat.toDigits 10 lead.natAbs).head? = some c → c.isDigit = false ∧ c ≠ '.' := by
    intro c next
    cases next
    decide
  unfold NumberFormat.exponentText
  cases same : Nat.toDigits 10 n with
  | nil => exact absurd same Nat.toDigits_ne_nil
  | cons d rest =>
    rw [same] at digits value
    obtain ⟨first, others⟩ := List.forall_mem_cons.1 digits
    have parts := read?_parts negative (isWhole_digit d) (List.forall_mem_singleton.2 first) others
      stop power
    refine ⟨_, Eq.trans (congrArg read? ?_) parts, .inr (by simp), rfl, ?_⟩
    · cases rest <;> simp [fractionText]
    · have back : lead - (rest.length : Int) = lead + 1 - ((rest.length + 1 : Nat) : Int) := by
        omega
      rw [decimal, Option.getD_some, List.cons_append, List.nil_append, value, List.length_cons,
        back]

/-- Zeros taken off the end of a decimal, or put behind its point, do not change what it is read
as. -/
theorem toMagnitude?_moved {n k : Nat} {exponent : Int} {d : Decimal} (positive : 0 < n)
    (form : d = ⟨n, exponent + k⟩ ∨
      0 ≤ exponent + k ∧ d = ⟨n * 10 ^ ((exponent + k).toNat + 1), -1⟩) :
    d.toMagnitude? = Decimal.toMagnitude? ⟨n * 10 ^ k, exponent⟩ := by
  rw [Decimal.toMagnitude?_mul_pow positive]
  rcases form with rfl | ⟨integer, rfl⟩
  · rfl
  · have back : -1 + (((exponent + k).toNat + 1 : Nat) : Int) = exponent + k := by
      omega
    rw [Decimal.toMagnitude?_mul_pow positive, back]

/-- The text of a magnitude spells its shortest decimal, without the zeros at its end, or that
integer with a fraction of zero. -/
theorem exists_spellsReal_magnitudeText {m : Magnitude} (nonzero : m.units ≠ 0) :
    ∃ (n k : Nat) (d : Decimal), 0 < n ∧
      (m.shortest NumberFormat.json.tie).coefficient = n * 10 ^ k ∧
      SpellsReal (signText negative ++ NumberFormat.json.magnitudeText m) negative d ∧
      d.toMagnitude? = some m ∧
      let exponent := (m.shortest NumberFormat.json.tie).exponent + k
      d = ⟨n, exponent⟩ ∨ 0 ≤ exponent ∧ d = ⟨n * 10 ^ (exponent.toNat + 1), -1⟩ := by
  have positive := Magnitude.coefficient_pos NumberFormat.json.tie nonzero
  have reads := Magnitude.toMagnitude?_shortest NumberFormat.json.tie nonzero
  unfold NumberFormat.magnitudeText
  rw [if_neg nonzero]
  generalize m.shortest NumberFormat.json.tie = shortest at positive reads ⊢
  obtain ⟨coefficient, exponent⟩ := shortest
  obtain ⟨n, k, some?, rfl, digits⟩ := Text.dropTrailingZeros_toDigits positive
  have lead : exponent + ((Nat.toDigits 10 (n * 10 ^ k)).length : Int) - 1 =
      exponent + k + (Nat.toDigits 10 n).length - 1 := by
    rw [toDigits_mul_pow some?, List.length_append, List.length_replicate]
    omega
  dsimp only
  rw [digits, lead]
  have moved : ∀ {d : Decimal}, _ → d.toMagnitude? = some m := fun form =>
    (toMagnitude?_moved some? form).trans reads
  by_cases positional : NumberFormat.json.positional
      (exponent + k + (Nat.toDigits 10 n).length - 1) = true
  · rw [if_pos positional]
    have spells := spellsReal_positionalText negative some? (exponent + k)
    split at spells
    · rename_i integer
      exact ⟨n, k, _, some?, rfl, spells, moved (.inr ⟨integer, rfl⟩), .inr ⟨integer, rfl⟩⟩
    · exact ⟨n, k, _, some?, rfl, spells, moved (.inl rfl), .inl rfl⟩
  · rw [if_neg positional]
    have spells := spellsReal_exponentText negative (n := n)
      (exponent + k + (Nat.toDigits 10 n).length - 1)
    have back : exponent + k + (Nat.toDigits 10 n).length - 1 + 1 - (Nat.toDigits 10 n).length =
        exponent + k := by
      omega
    rw [back] at spells
    exact ⟨n, k, _, some?, rfl, spells, moved (.inl rfl), .inl rfl⟩

/-- The text of a number of the format is a numeral, but not that of an integer, and its decimal is
one to which that number is the nearest. -/
theorem exists_spellsReal_text (m : Magnitude) :
    ∃ d, SpellsReal (NumberFormat.json.text (.finite negative m)) negative d ∧
      d.toMagnitude? = some m := by
  change ∃ d, SpellsReal (signText negative ++ NumberFormat.json.magnitudeText m) negative d ∧ _
  by_cases zero : m.units = 0
  · obtain rfl := Magnitude.eq_zero_of_units zero
    exact ⟨_, @spellsReal_point negative ['0'] ['0'] rfl (List.all_eq_true.1 (by decide))
      (List.all_eq_true.1 (by decide)) (List.cons_ne_nil _ _), rfl⟩
  · obtain ⟨n, k, d, -, -, spells, reads, -⟩ := exists_spellsReal_magnitudeText negative zero
    exact ⟨d, spells, reads⟩

theorem exists_read?_text {x : Binary64} (finite : x.isFinite = true) :
    ∃ numeral : Numeral, read? (NumberFormat.json.text x) = some numeral ∧ numeral.IsReal := by
  cases x with
  | nan => cases finite
  | infinite negative => cases finite
  | finite negative m =>
    obtain ⟨d, ⟨numeral, read, real, -⟩, -⟩ := exists_spellsReal_text negative m
    exact ⟨numeral, read, real⟩

/-- The integer that a numeral without a fraction and an exponent stands for. -/
theorem value?_integer {i : Int} (low : -(UInt64.size / 2 : Nat) ≤ i) (high : i < UInt64.size) :
    value? ⟨decide (i < 0), Nat.toDigits 10 i.natAbs, [], none⟩ =
      some (if i < 0 then .negative i else .natural i.natAbs) := by
  have half : UInt64.size / 2 = 9223372036854775808 := rfl
  have size : UInt64.size = 18446744073709551616 := rfl
  unfold value?
  simp only [Nat.ofDigitChars_ten_toDigits, and_self, if_true, decide_eq_true_eq]
  by_cases negative : i < 0
  · have back : -(i.natAbs : Int) = i := by omega
    rw [if_pos negative, if_pos negative, if_pos (by omega), back]
  · rw [if_neg negative, if_neg negative, if_pos (by omega)]

/-! ## The characters of a numeral -/

theorem readFraction?_eq_some {cs fraction rest : List Char}
    (read : readFraction? cs = some (fraction, rest)) :
    cs = fractionText fraction ++ rest ∧ ∀ c ∈ fraction, c.isDigit = true := by
  unfold readFraction? at read
  split at read
  · rename_i behind
    dsimp only [Decimal.splitDigits] at read
    split at read
    · cases read
    · rename_i some?
      cases read
      refine ⟨?_, (Text.longest_front behind).1⟩
      rw [fractionText, if_neg some?, List.cons_append, List.takeWhile_append_dropWhile]
  · cases read
    exact ⟨rfl, List.forall_mem_nil _⟩

theorem isNumeralChar_of_isDigit {c : Char} (digit : c.isDigit = true) :
    isNumeralChar c = true := by
  simp [isNumeralChar, digit]

theorem isNumeralChar_of_readInt? {cs : List Char} {i : Int} (read : Text.readInt? cs = some i) :
    ∀ c ∈ cs, isNumeralChar c = true := by
  unfold Text.readInt? at read
  split at read
  rename_i negative digits signed
  obtain ⟨n, value, -⟩ := Option.map_eq_some_iff.1 read
  have inside : ∀ c ∈ digits, isNumeralChar c = true := by
    unfold Text.readDigits? at value
    split at value
    · rename_i all
      exact fun c member => isNumeralChar_of_isDigit (List.all_eq_true.1 all.2 c member)
    · cases value
  unfold Text.splitSign at signed
  split at signed
  · cases signed
    exact List.forall_mem_cons.2 ⟨rfl, inside⟩
  · cases signed
    exact List.forall_mem_cons.2 ⟨rfl, inside⟩
  · cases signed
    exact inside

theorem isNumeralChar_of_readPower? {cs : List Char} {exponent? : Option Int}
    (read : readPower? cs = some exponent?) : ∀ c ∈ cs, isNumeralChar c = true := by
  unfold readPower? at read
  split at read
  · exact List.forall_mem_nil _
  · split at read
    · rename_i letter
      obtain ⟨i, value, -⟩ := Option.map_eq_some_iff.1 read
      refine List.forall_mem_cons.2 ⟨?_, isNumeralChar_of_readInt? value⟩
      rcases letter with rfl | rfl <;> rfl
    · cases read

/-- What is read as a numeral is put together from its parts. -/
theorem exists_parts_of_read? {cs : List Char} {n : Numeral} (read : read? cs = some n) :
    ∃ power, cs = signText n.negative ++ (n.whole ++ (fractionText n.fraction ++ power)) ∧
      isWhole n.whole = true ∧ (∀ c ∈ n.whole, c.isDigit = true) ∧
      (∀ c ∈ n.fraction, c.isDigit = true) ∧ readPower? power = some n.exponent? := by
  unfold read? at read
  split at read
  rename_i negative body signed
  have form : cs = signText negative ++ body := by
    split at signed <;> cases signed <;> rfl
  dsimp only [Decimal.splitDigits] at read
  split at read
  · rename_i first
    obtain ⟨⟨fraction, power⟩, behind, read⟩ := Option.bind_eq_some_iff.1 read
    obtain ⟨exponent?, last, rfl⟩ := Option.map_eq_some_iff.1 read
    obtain ⟨rest, places⟩ := readFraction?_eq_some behind
    refine ⟨power, ?_, first, (Text.longest_front body).1, places, last⟩
    dsimp only
    rw [form, ← rest, List.takeWhile_append_dropWhile]
  · cases read

/-- The text of a numeral begins with a minus or a digit and has no characters but those of
numerals. -/
theorem characters_of_read? {cs : List Char} {n : Numeral} (read : read? cs = some n) :
    (∃ c rest, cs = c :: rest ∧ (c = '-' ∨ c.isDigit = true)) ∧
      ∀ c ∈ cs, isNumeralChar c = true := by
  obtain ⟨power, rfl, first, digits, places, last⟩ := exists_parts_of_read? read
  constructor
  · cases n.negative with
    | true => exact ⟨'-', _, rfl, .inl rfl⟩
    | false =>
      cases whole : n.whole with
      | nil =>
        rw [whole] at first
        cases first
      | cons c rest =>
        rw [whole] at digits
        exact ⟨c, _, rfl, .inr (digits c List.mem_cons_self)⟩
  · intro c member
    rcases List.mem_append.1 member with sign | member
    · unfold signText at sign
      split at sign
      · rw [List.mem_singleton.1 sign]
        rfl
      · cases sign
    rcases List.mem_append.1 member with digit | member
    · exact isNumeralChar_of_isDigit (digits c digit)
    rcases List.mem_append.1 member with place | member
    · unfold fractionText at place
      split at place
      · cases place
      · rcases List.mem_cons.1 place with rfl | place
        · rfl
        · exact isNumeralChar_of_isDigit (places c place)
    · exact isNumeralChar_of_readPower? last c member

end Numeral

def ReadsBack (x : Binary64) : Prop :=
  (Numeral.read? (NumberFormat.json.text x)).bind Numeral.real? = some x

instance (x : Binary64) : Decidable (ReadsBack x) :=
  inferInstanceAs (Decidable (_ = _))

namespace Value

/-- An integer in the range of 64 bits, with or without a sign, is read back. -/
theorem number?_integerText {i : Int} (low : -(UInt64.size / 2 : Nat) ≤ i)
    (high : i < UInt64.size) :
    number? (String.ofList (Text.integerText i)) =
      some (if i < 0 then .negative i else .natural i.natAbs) := by
  rw [number?, String.toList_ofList, Numeral.read?_integerText, Option.bind_some,
    Numeral.value?_integer low high]

/-- A number that reads back is read as a number of the format and not as an integer. -/
theorem number?_text {x : Binary64} (finite : x.isFinite = true) (back : ReadsBack x) :
    number? (String.ofList (NumberFormat.json.text x)) = some (.real x) := by
  obtain ⟨numeral, read, real⟩ := Numeral.exists_read?_text finite
  rw [ReadsBack, read, Option.bind_some] at back
  rw [number?, String.toList_ofList, read, Option.bind_some, Numeral.value?_of_isReal real, back,
    Option.map_some]

end Value

end Json

end SqlGrader
