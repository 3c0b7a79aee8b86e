import SqlGrader.Proofs.Binary64.ReadBack
import SqlGrader.Proofs.Token.Lexing

/-!
# Numbers as tokens

A number in plain notation is one token in front of what is neither a digit nor a point. Main
statements: the digits of an integer are an integer token as far as 64 bits go and a
floating-point token beyond (`numberKind?_small`, `numberKind?_large`), digits with a point are the
floating-point token of their value (`numberKind?_places`), and no other tokens are numbers
(`Lexed.exists_numberKind?`).
-/

set_option autoImplicit false

namespace SqlGrader

namespace Binary64

theorem read?_toDigits (n : Nat) :
    read? (Nat.toDigits 10 n) = some (ofDecimal false ⟨n, 0⟩) := by
  have inside : ∀ c ∈ Nat.toDigits 10 n, c.isDigit = true :=
    fun c => Text.isDigit_of_mem_toDigits
  have digits := Decimal.read?_digits Nat.toDigits_ne_nil inside
  rw [Nat.ofDigitChars_ten_toDigits] at digits
  obtain ⟨c, rest, text⟩ := List.exists_cons_of_ne_nil (Nat.toDigits_ne_nil (n := n) (b := 10))
  rw [text] at digits inside ⊢
  rw [read?_of_digit (inside c List.mem_cons_self), digits, Option.map_some]

theorem read?_of_places {text whole places : List Char} (h : Places text whole places) :
    read? text = some (ofDecimal false
      ⟨Nat.ofDigitChars 10 (whole ++ places) 0, -(places.length : Int)⟩) := by
  have digits := Decimal.read?_places h
  obtain ⟨c, rest, rfl⟩ := List.exists_cons_of_ne_nil h.nonempty
  have first := h.front c List.mem_cons_self
  rw [h.form, List.cons_append] at digits ⊢
  rw [read?_of_digit first, digits, Option.map_some]

theorem ofDecimal_of_magnitude {negative : Bool} {d : Decimal} {m : Magnitude}
    (h : d.toMagnitude? = some m) : ofDecimal negative d = .finite negative m := by
  rw [ofDecimal, h]

end Binary64

namespace Lexer

theorem point_notMem_toDigits (n : Nat) : '.' ∉ Nat.toDigits 10 n := by
  intro member
  have digit := Text.isDigit_of_mem_toDigits member
  revert digit
  decide

/-- The digits of an integer in the range of 64 bits are an integer token. -/
theorem numberKind?_small {n : Nat} (fits : (n : Int) ≤ Int64.maxValue.toInt) :
    numberKind? (Nat.toDigits 10 n) = some (.integer (Int64.ofInt n)) := by
  have noPoint : (Nat.toDigits 10 n).contains '.' = false := by
    simpa using point_notMem_toDigits n
  rw [numberKind?, noPoint, Text.readInt64?_toDigits fits]
  rfl

/-- The digits of a greater integer are a floating-point token. -/
theorem numberKind?_large {n : Nat} (large : Int64.maxValue.toInt < (n : Int)) :
    numberKind? (Nat.toDigits 10 n) = some (.float (.ofDecimal false ⟨n, 0⟩)) := by
  have noPoint : (Nat.toDigits 10 n).contains '.' = false := by
    simpa using point_notMem_toDigits n
  have outside : Text.readInt64? (Nat.toDigits 10 n) = none := by
    have read : Text.readInt? (Nat.toDigits 10 n) = some (n : Int) := by
      simp [Text.readInt?, Text.splitSign_toDigits, Text.readDigits?_toDigits]
    rw [Text.readInt64?, read, Option.bind_some, if_neg (by omega)]
  rw [numberKind?, noPoint, outside, Binary64.read?_toDigits]
  rfl

/-- Digits with a point among them are a floating-point token. -/
theorem numberKind?_places {text whole places : List Char} (h : Places text whole places) :
    numberKind? text = some (.float (.ofDecimal false
      ⟨Nat.ofDigitChars 10 (whole ++ places) 0, -(places.length : Int)⟩)) := by
  have point : text.contains '.' = true := by
    simp [h.form]
  rw [numberKind?, point, if_pos rfl, Binary64.read?_of_places h, Option.map_some]

/-- What stands behind a literal in a row. -/
def Delimits (next? : Option Char) : Prop :=
  next? = some ',' ∨ next? = some ')'

theorem Delimits.not_number {next? : Option Char} (h : Delimits next?) :
    ∀ d, next? = some d → d.isDigit = false ∧ d ≠ '.' := by
  rintro d next
  rcases h with rfl | rfl <;> cases next <;> decide

/-- A text that begins with a digit and is one token in front of a delimiter. -/
def IsNumber (text : List Char) (kind : TokenKind) : Prop :=
  (∃ c, text.head? = some c ∧ c.isDigit = true) ∧
    ∀ next?, Delimits next? → Reads next? text (some kind)

theorem exists_digit_toDigits (n : Nat) :
    ∃ c, (Nat.toDigits 10 n).head? = some c ∧ c.isDigit = true := by
  obtain ⟨c, rest, text⟩ := List.exists_cons_of_ne_nil (Nat.toDigits_ne_nil (n := n) (b := 10))
  have member : c ∈ Nat.toDigits 10 n := text ▸ List.mem_cons_self
  exact ⟨c, by rw [text]; rfl, Text.isDigit_of_mem_toDigits member⟩

/-- The digits of an integer are one token in front of what is neither a digit nor a point. -/
theorem reads_toDigits {n : Nat} {kind : TokenKind} {next? : Option Char}
    (h : numberKind? (Nat.toDigits 10 n) = some kind)
    (stop : ∀ d, next? = some d → d.isDigit = false ∧ d ≠ '.') :
    Reads next? (Nat.toDigits 10 n) (some kind) := by
  have inside : ∀ c ∈ Nat.toDigits 10 n, c.isDigit = true :=
    fun c => Text.isDigit_of_mem_toDigits
  obtain ⟨c, rest, text⟩ := List.exists_cons_of_ne_nil (Nat.toDigits_ne_nil (n := n) (b := 10))
  rw [text] at h inside ⊢
  exact .whole (inside c List.mem_cons_self)
    (fun d member => inside d (List.mem_cons_of_mem c member)) stop h

theorem isNumber_toDigits {n : Nat} {kind : TokenKind}
    (h : numberKind? (Nat.toDigits 10 n) = some kind) : IsNumber (Nat.toDigits 10 n) kind :=
  ⟨exists_digit_toDigits n, fun _ ends => reads_toDigits h ends.not_number⟩

theorem isNumber_places {text whole places : List Char} {kind : TokenKind}
    (form : Places text whole places) (h : numberKind? text = some kind) :
    IsNumber text kind := by
  obtain ⟨rfl, nonempty, front, back⟩ := form
  obtain ⟨c, rest, rfl⟩ := List.exists_cons_of_ne_nil nonempty
  have first := front c List.mem_cons_self
  exact ⟨⟨c, rfl, first⟩, fun next? ends =>
    .fraction first (fun d member => front d (List.mem_cons_of_mem c member)) back
      (fun d next => (ends.not_number d next).1) h⟩

/-! ## Numbers among the tokens -/

inductive IsNumeric : TokenKind → Prop where
  | integer (i : Int64) : IsNumeric (.integer i)
  | float (x : Binary64) : IsNumeric (.float x)

/-- A span that makes a number begins with a digit and spells it. -/
theorem Reads.numberKind?_eq {next? : Option Char} {text : List Char} {kind : TokenKind}
    (h : Reads next? text (some kind)) (numeric : IsNumeric kind) :
    ∃ c rest, text = c :: rest ∧ c.isDigit = true ∧ numberKind? (c :: rest) = some kind := by
  generalize made : some kind = kind? at h
  cases h with
  | whole first inside stop value => exact ⟨_, _, rfl, first, made ▸ value⟩
  | fraction first inside behind stop value => exact ⟨_, _, rfl, first, made ▸ value⟩
  | @word c letters =>
    obtain rfl := Option.some.inj made
    unfold wordKind at numeric
    split at numeric <;> cases numeric
  | @sign c =>
    obtain rfl := Option.some.inj made
    unfold signKind? at numeric
    split at numeric <;> cases numeric
  | string =>
    obtain rfl := Option.some.inj made
    cases numeric
  | identifier =>
    obtain rfl := Option.some.inj made
    cases numeric
  | _ => cases made

theorem Lexed.exists_reads {next? : Option Char} {spans : List Span} {span : Span}
    (h : Lexed next? spans) (member : span ∈ spans) :
    ∃ behind?, Reads behind? span.text span.kind? := by
  induction spans with
  | nil => cases member
  | cons first rest ih =>
    obtain ⟨reads, later⟩ := h
    rcases List.mem_cons.1 member with rfl | behind
    · exact ⟨_, reads⟩
    · exact ih later behind

/-- A number among the kinds of the tokens is made by a span that begins with a digit and spells
it. -/
theorem Lexed.exists_numberKind? {next? : Option Char} {spans : List Span} {kind : TokenKind}
    (h : Lexed next? spans) (member : kind ∈ kindsOf spans) (numeric : IsNumeric kind) :
    ∃ span ∈ spans, span.kind? = some kind ∧ ∃ c rest, span.text = c :: rest ∧ c.isDigit = true ∧
      numberKind? (c :: rest) = some kind := by
  obtain ⟨span, isSpan, made⟩ := List.mem_filterMap.1 member
  obtain ⟨behind?, reads⟩ := h.exists_reads isSpan
  rw [made] at reads
  exact ⟨span, isSpan, made, reads.numberKind?_eq numeric⟩

/-- A floating-point number is the one nearest to the decimal that is spelled. -/
theorem exists_decimal_of_numberKind? {c : Char} {rest : List Char} {x : Binary64}
    (digit : c.isDigit = true) (h : numberKind? (c :: rest) = some (.float x)) :
    ∃ d, Decimal.read? (c :: rest) = some d ∧ x = .ofDecimal false d := by
  have read : Binary64.read? (c :: rest) = some x := by
    have number : (Binary64.read? (c :: rest)).map TokenKind.float = some (.float x) := by
      unfold numberKind? at h
      split at h
      · exact h
      · cases whole : Text.readInt64? (c :: rest) with
        | none => simpa [whole] using h
        | some i => simp [whole] at h
    obtain ⟨y, read, same⟩ := Option.map_eq_some_iff.1 number
    obtain rfl := TokenKind.float.inj same
    exact read
  rw [Binary64.read?_of_digit digit] at read
  obtain ⟨d, decimal, rounded⟩ := Option.map_eq_some_iff.1 read
  exact ⟨d, decimal, rounded.symm⟩

theorem readInt64?_of_numberKind? {text : List Char} {i : Int64}
    (h : numberKind? text = some (.integer i)) : Text.readInt64? text = some i := by
  have noFloat : ∀ x? : Option Binary64, x?.map TokenKind.float ≠ some (.integer i) := by
    rintro (_ | x) <;> simp
  unfold numberKind? at h
  split at h
  · exact absurd h (noFloat _)
  · cases read : Text.readInt64? text with
    | none =>
      rw [read] at h
      exact absurd h (noFloat _)
    | some j =>
      rw [read] at h
      cases h
      rfl

/-- Without a sign in front an integer is not negative. -/
theorem nonneg_of_readInt64? {c : Char} {rest : List Char} {i : Int64} (digit : c.isDigit = true)
    (h : Text.readInt64? (c :: rest) = some i) : 0 ≤ i.toInt := by
  have noSign : Text.splitSign (c :: rest) = (false, c :: rest) := by
    unfold Text.splitSign
    split
    · rename_i same
      cases same
      cases digit
    · rename_i same
      cases same
      cases digit
    · rfl
  obtain ⟨k, read, inRange⟩ := Option.bind_eq_some_iff.1 h
  rw [Text.readInt?, noSign] at read
  obtain ⟨n, digits, value⟩ := Option.map_eq_some_iff.1 read
  obtain ⟨natural, -, isNatural⟩ := Option.bind_eq_some_iff.1 digits
  have nonneg : 0 ≤ k := by
    rw [← show n = k from value, ← Option.some.inj isNatural]
    exact Int.natCast_nonneg natural
  split at inRange
  · rename_i bounds
    cases inRange
    have high : Int64.maxValue.toInt = 2 ^ 63 - 1 := by decide
    rw [high] at bounds
    rw [Int64.toInt_ofInt_of_le (by omega) (by omega)]
    omega
  · cases inRange

end Lexer

/-- The least integer is the one whose negation overflows, and it is negative. -/
theorem toInt_neg_of_nonneg {i : Int64} (nonneg : 0 ≤ i.toInt) : (-i).toInt = -i.toInt := by
  have above := i.toInt_lt
  rw [Int64.toInt_neg]
  exact Int.bmod_eq_of_le (by omega) (by omega)

end SqlGrader
