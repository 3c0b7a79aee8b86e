/-!
# Integers as written

An optional sign and at least one ASCII digit, read as an integer of a given range. Main
statement: an integer in range is read back from its digits (`readInt64?_toDigits`).
-/

set_option autoImplicit false

namespace SqlGrader.Text

/-- Splits off one leading sign; the flag tells a minus. -/
def splitSign : List Char → Bool × List Char
  | '-' :: rest => (true, rest)
  | '+' :: rest => (false, rest)
  | cs => (false, cs)

/-- The value of a run of digits; `none` if it is empty or holds anything else. -/
def readDigits? (cs : List Char) : Option Nat :=
  if cs ≠ [] ∧ cs.all Char.isDigit then some (Nat.ofDigitChars 10 cs 0) else none

def readInt? (cs : List Char) : Option Int :=
  let (negative, digits) := splitSign cs
  (readDigits? digits).map fun n => if negative then -(n : Int) else n

/-- A signed integer in the range of 64 bits. -/
def readInt64? (cs : List Char) : Option Int64 :=
  (readInt? cs).bind fun i =>
    if Int64.minValue.toInt ≤ i ∧ i ≤ Int64.maxValue.toInt then some (Int64.ofInt i) else none

/-- An unsigned integer in the range of 32 bits, with or without a plus. -/
def readWord? (cs : List Char) : Option Nat :=
  let digits := match cs with
    | '+' :: rest => rest
    | _ => cs
  (readDigits? digits).bind fun n => if n < UInt32.size then some n else none

/-- An integer in decimal digits, with a minus if it is negative. -/
def integerText (i : Int) : List Char :=
  if i < 0 then '-' :: Nat.toDigits 10 i.natAbs else Nat.toDigits 10 i.natAbs

/-- The digits of a natural number are read as that number. -/
theorem readDigits?_toDigits (n : Nat) : readDigits? (Nat.toDigits 10 n) = some n := by
  have hall : (Nat.toDigits 10 n).all Char.isDigit = true :=
    List.all_eq_true.2 fun c hc => Nat.isDigit_of_mem_toDigits (by decide) (by decide) hc
  rw [readDigits?, if_pos ⟨Nat.toDigits_ne_nil, hall⟩, Nat.ofDigitChars_ten_toDigits]

/-- The digits of a natural number have no sign in front. -/
theorem splitSign_toDigits (n : Nat) :
    splitSign (Nat.toDigits 10 n) = (false, Nat.toDigits 10 n) := by
  have hdigit : ∀ c ∈ Nat.toDigits 10 n, c.isDigit = true := fun c hc =>
    Nat.isDigit_of_mem_toDigits (by decide) (by decide) hc
  unfold splitSign
  split
  · rename_i rest heq
    exact absurd (hdigit '-' (by simp [heq])) (by decide)
  · rename_i rest heq
    exact absurd (hdigit '+' (by simp [heq])) (by decide)
  · rfl

/-- A natural number in range is read back from its digits. -/
theorem readInt64?_toDigits {n : Nat} (h : (n : Int) ≤ Int64.maxValue.toInt) :
    readInt64? (Nat.toDigits 10 n) = some (Int64.ofInt n) := by
  have hread : readInt? (Nat.toDigits 10 n) = some (n : Int) := by
    simp [readInt?, splitSign_toDigits, readDigits?_toDigits]
  have hlow : Int64.minValue.toInt ≤ (n : Int) := by
    have : Int64.minValue.toInt ≤ 0 := by decide
    omega
  rw [readInt64?, hread, Option.bind_some, if_pos ⟨hlow, h⟩]

end SqlGrader.Text
