import SqlGrader.Statement.Insertion
import SqlGrader.Proofs.Statement.Grammar
import SqlGrader.Proofs.Token.Numbers

/-!
# Cells as literals

What a cell is read back as when it is written as a literal. A text comes back as it is, null as
the text `NULL`, and a number as an equal one, though an integral floating-point number in the
range of 64 bits becomes an integer. Main statement: every cell that is no infinite number and
not-a-number reads back as such a cell (`exists_literal`).
-/

set_option autoImplicit false

namespace SqlGrader

open SqlGrader.Lexer SqlGrader.Parser

namespace Cell

/-- What a cell is stored as when it is written into a statement. It looks like the cell unless
it is the least integer, which becomes a floating-point number, or the negative zero, which
becomes an integer. -/
structure StoredAs (cell stored : Cell) : Prop where
  value : match cell with
    | .text s => stored = .text s
    | .null => stored = .text "NULL"
    | .integer _ | .float _ => stored.isNumeric = true ∧ cell.equals stored = true
  display : stored.display = cell.display ↔
    cell ≠ .integer Int64.minValue ∧ cell ≠ .float (.zero true)

end Cell

/-- A text that reads as one literal in front of a delimiter. -/
def ReadsAs (text : List Char) (value : Literal) : Prop :=
  ∃ spans, textOf spans = text ∧ (∀ next?, Delimits next? → Lexed next? spans) ∧
    literalOf? (kindsOf spans) = some value

def signText (negative : Bool) : List Char :=
  if negative then ['-'] else []

/-- A number reads as a literal with or without a minus. -/
theorem readsAs_number {text : List Char} {kind : TokenKind} {value : Literal}
    (h : IsNumber text kind) (negative : Bool)
    (read : literalOf? (if negative then [.minus, kind] else [kind]) = some value) :
    ReadsAs (signText negative ++ text) value := by
  obtain ⟨⟨c, head, digit⟩, reads⟩ := h
  cases negative with
  | false =>
    refine ⟨[⟨text, some kind⟩], by simp [signText], fun next? ends => ?_, read⟩
    exact ⟨by simpa using reads next? ends, trivial⟩
  | true =>
    refine ⟨[⟨['-'], some .minus⟩, ⟨text, some kind⟩], by simp [signText],
      fun next? ends => ?_, read⟩
    refine ⟨reads_sign rfl fun _ => ?_, by simpa using reads _ ends, trivial⟩
    simp only [textOf_cons, textOf_nil, List.append_nil, head, Option.some_or]
    rintro ⟨⟩
    revert digit
    decide

theorem readsAs_quoted (s : List Char) :
    ReadsAs ('\'' :: (doubled '\'' s ++ ['\''])) (.quoted (String.ofList s)) := by
  refine ⟨[⟨_, some (.string (String.ofList s))⟩], by simp, fun next? ends => ⟨.string ?_, trivial⟩,
    rfl⟩
  rcases ends with rfl | rfl <;> simp

theorem readsAs_null : ReadsAs ['N', 'U', 'L', 'L'] (.bare "NULL") := by
  refine ⟨[⟨['N', 'U', 'L', 'L'], some (wordKind ['N', 'U', 'L', 'L'])⟩], rfl,
    fun next? ends => ⟨.word (by decide) (List.all_eq_true.1 (by decide)) ?_, trivial⟩, by decide⟩
  intro d next
  rcases ends with rfl | rfl <;> cases next <;> decide

/-! ## Numbers -/

def signed (negative : Bool) (n : Nat) : Int :=
  if negative then -n else n

theorem integerText_signed {negative : Bool} {n : Nat} (h : negative = true → n ≠ 0) :
    Text.integerText (signed negative n) = signText negative ++ Nat.toDigits 10 n := by
  cases negative with
  | false =>
    have nonnegative : ¬ (n : Int) < 0 := by omega
    simp [signed, signText, Text.integerText, nonnegative]
  | true =>
    simp [signed, signText, Text.integerText, h rfl]

theorem toInt_ofInt_signed {n : Nat} (fits : (n : Int) ≤ Int64.maxValue.toInt) (negative : Bool) :
    (Int64.ofInt (signed negative n)).toInt = signed negative n := by
  rw [Int64.toInt_maxValue] at fits
  cases negative <;> exact Int64.toInt_ofInt_of_le (by simp only [signed]; omega)
    (by simp only [signed]; omega)

theorem digitCount_of_fits {n : Nat} (fits : (n : Int) ≤ Int64.maxValue.toInt) :
    Decimal.digitCount n ≤ 330 := by
  rw [Int64.toInt_maxValue] at fits
  have small : n ≤ 2 ^ 63 := by omega
  have digits : Decimal.digitCount (2 ^ 63) ≤ 330 := by decide +kernel
  exact Nat.le_trans (Decimal.digitCount_le small) digits

theorem readsAs_small {n : Nat} (fits : (n : Int) ≤ Int64.maxValue.toInt) (negative : Bool) :
    ReadsAs (signText negative ++ Nat.toDigits 10 n)
      (.integer (Int64.ofInt (signed negative n))) := by
  refine readsAs_number (isNumber_toDigits (numberKind?_small fits)) negative ?_
  cases negative with
  | false => rfl
  | true => simp [literalOf?, signed, Int64.ofInt_neg]

theorem readsAs_float {text : List Char} {x : Binary64} (h : IsNumber text (.float x))
    (negative : Bool) :
    ReadsAs (signText negative ++ text) (.float (if negative then x.neg else x)) := by
  refine readsAs_number h negative ?_
  cases negative <;> rfl

theorem Binary64.equals_self (negative : Bool) (m : Magnitude) :
    (Binary64.finite negative m).equals (.finite negative m) = true := by
  simp [Binary64.equals, Binary64.place?]

namespace Cell

theorem storedAs_integer {i : Int64} (h : i ≠ Int64.minValue) :
    StoredAs (.integer i) (.integer i) :=
  ⟨⟨rfl, by simp [equals]⟩, by simp [h]⟩

theorem storedAs_float {negative : Bool} {m : Magnitude} (h : m ≠ .zero) :
    StoredAs (.float (.finite negative m)) (.float (.finite negative m)) :=
  ⟨⟨rfl, Binary64.equals_self negative m⟩, by simp [Binary64.zero, h]⟩

/-- Only zero is written as a zero. -/
theorem eq_zero_iff_of_plain {m : Magnitude} {n : Nat}
    (text : NumberFormat.plain.magnitudeText m = Nat.toDigits 10 n)
    (reads : Decimal.toMagnitude? ⟨n, 0⟩ = some m) : n = 0 ↔ m = .zero := by
  constructor
  · rintro rfl
    rw [Decimal.toMagnitude?_zero] at reads
    exact (Option.some.inj reads).symm
  · rintro rfl
    have value := congrArg (Nat.ofDigitChars 10 · 0) text
    rw [Nat.ofDigitChars_ten_toDigits] at value
    exact value.symm

theorem equals_float_integer (x : Binary64) (i : Int64) :
    (Cell.float x).equals (.integer i) = (Binary64.ofInt64 i).equals x := rfl

/-- An integral number is stored as the integer of its digits. -/
theorem storedAs_integral {negative : Bool} {m : Magnitude} {n : Nat}
    (text : NumberFormat.plain.magnitudeText m = Nat.toDigits 10 n)
    (reads : Decimal.toMagnitude? ⟨n, 0⟩ = some m) (fits : (n : Int) ≤ Int64.maxValue.toInt) :
    StoredAs (.float (.finite negative m)) (.integer (Int64.ofInt (signed negative n))) := by
  have back := toInt_ofInt_signed fits negative
  have zero := eq_zero_iff_of_plain text reads
  refine ⟨⟨rfl, ?_⟩, ?_⟩
  · have size : (signed negative n).natAbs = n := by cases negative <;> simp [signed]
    have nearest : Binary64.ofInt (signed negative n) =
        .finite (decide (signed negative n < 0)) m :=
      Binary64.ofInt_of_magnitude (size.symm ▸ digitCount_of_fits fits) (size.symm ▸ reads)
    have place : (if signed negative n < 0 then -(m.units : Int) else m.units) =
        if negative = true then -(m.units : Int) else m.units := by
      by_cases none? : n = 0
      · rw [zero.1 none?]
        simp [Magnitude.units, Magnitude.zero]
      · cases negative with
        | false => simp [signed]
        | true =>
          have positive : 0 < n := by omega
          simp [signed, positive]
    rw [equals_float_integer, Binary64.ofInt64, back, nearest]
    simp [Binary64.equals, Binary64.place?, place]
  · have original : (Cell.float (.finite negative m)).display =
        String.ofList (signText negative ++ Nat.toDigits 10 n) := by
      rw [display, NumberFormat.text, text, signText]
    rw [original, display, back]
    by_cases exceptional : negative = true ∧ n = 0
    · obtain ⟨rfl, rfl⟩ := exceptional
      obtain rfl := zero.1 rfl
      decide
    · have same : Text.integerText (signed negative n) = signText negative ++ Nat.toDigits 10 n :=
        integerText_signed fun minus none? => exceptional ⟨minus, none?⟩
      have ordinary : ¬ (negative = true ∧ m = .zero) := by
        rw [← zero]
        exact exceptional
      simpa [same, Binary64.zero] using ordinary

/-! ## Cells -/

theorem exists_literal_text (s : String) :
    ∃ value, ReadsAs (Cell.text s).literalText.toList value ∧
      (Cell.text s).StoredAs value.toCell := by
  refine ⟨.quoted s, ?_, rfl, by simp [Literal.toCell]⟩
  have quoted := readsAs_quoted s.toList
  rw [String.ofList_toList] at quoted
  simpa [literalText, doubled] using quoted

theorem exists_literal_null :
    ∃ value, ReadsAs Cell.null.literalText.toList value ∧ Cell.null.StoredAs value.toCell := by
  have stored : (Literal.bare "NULL").toCell = .text "NULL" := by decide
  refine ⟨.bare "NULL", readsAs_null, ?_⟩
  rw [stored]
  exact ⟨rfl, by decide⟩

/-- The least integer has no positive counterpart, so that it is read as a floating-point
number. -/
theorem exists_literal_minValue :
    ∃ value, ReadsAs (Cell.integer Int64.minValue).literalText.toList value ∧
      (Cell.integer Int64.minValue).StoredAs value.toCell := by
  have number := isNumber_toDigits (numberKind?_large (n := 2 ^ 63) (by decide))
  have nearest : (Binary64.ofDecimal false ⟨2 ^ 63, 0⟩).neg =
      .finite true ⟨1 <<< 52, 1085, by decide, by decide, by decide⟩ := by decide +kernel
  have reads := readsAs_float number true
  rw [if_pos rfl, nearest] at reads
  refine ⟨_, reads, ⟨rfl, by decide +kernel⟩, ?_⟩
  refine iff_of_false ?_ (by simp)
  decide +kernel

theorem exists_literal_integer {i : Int64} (h : i ≠ Int64.minValue) :
    ∃ value, ReadsAs (Cell.integer i).literalText.toList value ∧
      (Cell.integer i).StoredAs value.toCell := by
  have same : signed (decide (i.toInt < 0)) i.toInt.natAbs = i.toInt := by
    by_cases minus : i.toInt < 0
    · rw [decide_eq_true minus, signed, if_pos rfl]
      omega
    · rw [decide_eq_false minus, signed, if_neg Bool.false_ne_true]
      omega
  have fits : (i.toInt.natAbs : Int) ≤ Int64.maxValue.toInt := by
    have low := i.le_toInt
    have high := i.toInt_lt
    have notLeast : i.toInt ≠ Int64.minValue.toInt := fun least => h (Int64.toInt_inj.1 least)
    rw [Int64.toInt_minValue] at notLeast
    rw [Int64.toInt_maxValue]
    omega
  have text : Text.integerText (signed (decide (i.toInt < 0)) i.toInt.natAbs) =
      signText (decide (i.toInt < 0)) ++ Nat.toDigits 10 i.toInt.natAbs :=
    integerText_signed fun minus none? => by simp at minus; omega
  have reads := readsAs_small fits (decide (i.toInt < 0))
  rw [same] at text reads
  rw [← text, Int64.ofInt_toInt] at reads
  exact ⟨.integer i, by simpa [literalText, display] using reads, storedAs_integer h⟩

theorem exists_literal_float (negative : Bool) (m : Magnitude) :
    ∃ value, ReadsAs (Cell.float (.finite negative m)).literalText.toList value ∧
      (Cell.float (.finite negative m)).StoredAs value.toCell := by
  have whole : (Cell.float (.finite negative m)).literalText.toList =
      signText negative ++ NumberFormat.plain.magnitudeText m := by
    simp [literalText, display, NumberFormat.text, signText]
  have signedNumber : ∀ d : Decimal, d.toMagnitude? = some m →
      (if negative then (Binary64.ofDecimal false d).neg else .ofDecimal false d) =
        .finite negative m := by
    intro d reads
    rw [Binary64.ofDecimal_of_magnitude reads]
    cases negative <;> rfl
  rw [whole]
  rcases NumberFormat.magnitudeText_plain m with ⟨n, text, reads⟩ | ⟨front, places, form, reads⟩
  · by_cases fits : (n : Int) ≤ Int64.maxValue.toInt
    · exact ⟨_, text ▸ readsAs_small fits negative, storedAs_integral text reads fits⟩
    · have number := isNumber_toDigits (numberKind?_large (Int.not_le.1 fits))
      have literal := readsAs_float number negative
      rw [signedNumber _ reads, ← text] at literal
      refine ⟨_, literal, storedAs_float fun none? => fits ?_⟩
      rw [(eq_zero_iff_of_plain text reads).2 none?]
      decide
  · have literal := readsAs_float (isNumber_places form (numberKind?_places form)) negative
    rw [signedNumber _ reads] at literal
    refine ⟨_, literal, storedAs_float ?_⟩
    rintro rfl
    have point : '.' ∈ NumberFormat.plain.magnitudeText .zero := by
      rw [form.form]
      simp
    revert point
    decide

/-- Every cell but the infinite numbers and not-a-number is written as a literal and stored
again. -/
theorem exists_literal {cell : Cell} (finite : ∀ x, cell = .float x → x.isFinite = true) :
    ∃ value, ReadsAs cell.literalText.toList value ∧ cell.StoredAs value.toCell := by
  cases cell with
  | null => exact exists_literal_null
  | text s => exact exists_literal_text s
  | integer i =>
    by_cases least : i = Int64.minValue
    · subst least
      exact exists_literal_minValue
    · exact exists_literal_integer least
  | float x =>
    cases x with
    | finite negative m => exact exists_literal_float negative m
    | nan => exact absurd (finite _ rfl) (by decide)
    | infinite negative => exact absurd (finite _ rfl) (by simp [Binary64.isFinite])

end Cell

end SqlGrader
