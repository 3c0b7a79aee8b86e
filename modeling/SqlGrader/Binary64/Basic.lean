/-!
# Binary64 numbers

The numbers of the 64-bit binary format of IEEE 754, as a type of their own: every operation
is exact integer arithmetic followed by one rounding to the nearest number, ties to the even
significand. A finite magnitude is `significand · 2 ^ exponent` units of `2 ^ -1074`, the
least positive number, in the one form that has either exponent zero or a full significand.
-/

set_option autoImplicit false

namespace SqlGrader

/-- The nearest integer to `num / den`; of two equally near ones the even one. -/
def roundHalfEven (num den : Nat) : Nat :=
  let quotient := num / den
  let twice := 2 * (num % den)
  if twice < den then quotient
  else if den < twice then quotient + 1
  else if quotient % 2 = 0 then quotient
  else quotient + 1

theorem div_le_roundHalfEven (num den : Nat) : num / den ≤ roundHalfEven num den := by
  simp only [roundHalfEven]
  repeat' split
  all_goals omega

theorem roundHalfEven_le_div_succ (num den : Nat) : roundHalfEven num den ≤ num / den + 1 := by
  simp only [roundHalfEven]
  repeat' split
  all_goals omega

/-- A finite number without its sign. -/
structure Magnitude where
  significand : Nat
  exponent : Nat
  significand_lt : significand < 1 <<< 53
  exponent_le : exponent ≤ 2045
  normal : exponent = 0 ∨ 1 <<< 52 ≤ significand
  deriving DecidableEq

namespace Magnitude

/-- How many units of `2 ^ -1074` make one. -/
def one : Nat := 1 <<< 1074

/-- A number of units above that of every magnitude. -/
def limit : Nat := 1 <<< 2098

/-- The exact value in units of `2 ^ -1074`. -/
def units (m : Magnitude) : Nat :=
  m.significand <<< m.exponent

def zero : Magnitude where
  significand := 0
  exponent := 0
  significand_lt := by decide
  exponent_le := by decide
  normal := .inl rfl

/-- The exponent at which `num / den` units have a significand of 53 bits, or zero. -/
def exponentOf (num den : Nat) : Nat :=
  (num / den).log2 - 52

/-- The significand of `num / den` units before a carry out of its 53 bits. -/
def significandOf (num den : Nat) : Nat :=
  roundHalfEven num (den <<< exponentOf num den)

theorem div_shiftLeft_lt (num den : Nat) :
    num / (den <<< exponentOf num den) < 1 <<< 53 := by
  rw [Nat.shiftLeft_eq, Nat.shiftLeft_eq, Nat.one_mul, ← Nat.div_div_eq_div_mul,
    Nat.div_lt_iff_lt_mul (Nat.two_pow_pos _), ← Nat.pow_add]
  refine Nat.lt_of_lt_of_le Nat.lt_log2_self (Nat.pow_le_pow_right (by decide) ?_)
  simp only [exponentOf]
  omega

theorem significandOf_le (num den : Nat) : significandOf num den ≤ 1 <<< 53 := by
  have hlt := div_shiftLeft_lt num den
  have hle := roundHalfEven_le_div_succ num (den <<< exponentOf num den)
  simp only [significandOf]
  omega

theorem le_significandOf (num den : Nat) (h : exponentOf num den ≠ 0) :
    1 <<< 52 ≤ significandOf num den := by
  refine Nat.le_trans ?_ (div_le_roundHalfEven _ _)
  rw [Nat.shiftLeft_eq, Nat.shiftLeft_eq, Nat.one_mul, ← Nat.div_div_eq_div_mul,
    Nat.le_div_iff_mul_le (Nat.two_pow_pos _), ← Nat.pow_add]
  have hne : num / den ≠ 0 := by
    intro hzero
    simp [exponentOf, hzero] at h
  refine Nat.le_trans (Nat.pow_le_pow_right (by decide) ?_) (Nat.log2_self_le hne)
  simp only [exponentOf] at h ⊢
  omega

/-- The magnitude nearest to `num / den` units, ties to the even significand; `none` when it
is too large for the format. -/
def ofRatio? (num den : Nat) : Option Magnitude :=
  if hcarry : significandOf num den = 1 <<< 53 then
    if hexponent : exponentOf num den + 1 ≤ 2045 then
      some ⟨1 <<< 52, exponentOf num den + 1, by decide, hexponent, .inr (Nat.le_refl _)⟩
    else none
  else if hexponent : exponentOf num den ≤ 2045 then
    some ⟨significandOf num den, exponentOf num den,
      Nat.lt_of_le_of_ne (significandOf_le num den) hcarry, hexponent,
      (Decidable.em (exponentOf num den = 0)).imp id (le_significandOf num den)⟩
  else none

end Magnitude

inductive Binary64 where
  | nan
  | infinite (negative : Bool)
  | finite (negative : Bool) (magnitude : Magnitude)
  deriving DecidableEq

namespace Binary64

def zero (negative : Bool) : Binary64 :=
  .finite negative .zero

/-- The number nearest to `num / den` units with a sign; infinite beyond the largest one. -/
def ofRatio (negative : Bool) (num den : Nat) : Binary64 :=
  match Magnitude.ofRatio? num den with
  | some m => .finite negative m
  | none => .infinite negative

def ofInt (i : Int) : Binary64 :=
  ofRatio (i < 0) (i.natAbs * Magnitude.one) 1

def ofNat (n : Nat) : Binary64 :=
  ofRatio false (n * Magnitude.one) 1

def isFinite : Binary64 → Bool
  | .finite _ _ => true
  | _ => false

/-- The place on the number line, in units; the infinities stand beyond all finite numbers,
the two zeros in one place, and not-a-number nowhere. -/
def place? : Binary64 → Option Int
  | .nan => none
  | .infinite negative => some (if negative then -Magnitude.limit else Magnitude.limit)
  | .finite negative m => some (if negative then -m.units else m.units)

/-- Equality of numbers: the zeros are equal, and not-a-number equals nothing. -/
def equals (x y : Binary64) : Bool :=
  match x.place?, y.place? with
  | some a, some b => a == b
  | _, _ => false

/-- Whether one number exceeds another; never with not-a-number on either side. -/
def exceeds (x y : Binary64) : Bool :=
  match x.place?, y.place? with
  | some a, some b => b < a
  | _, _ => false

def neg : Binary64 → Binary64
  | .nan => .nan
  | .infinite negative => .infinite (!negative)
  | .finite negative m => .finite (!negative) m

def mul : Binary64 → Binary64 → Binary64
  | .nan, _ | _, .nan => .nan
  | .infinite s, .infinite t => .infinite (s != t)
  | .infinite s, .finite t m | .finite s m, .infinite t =>
    if m.units = 0 then .nan else .infinite (s != t)
  | .finite s m, .finite t n => ofRatio (s != t) (m.units * n.units) Magnitude.one

/-- The rounded quotient. A nonzero number divided by zero is infinite. -/
def div : Binary64 → Binary64 → Binary64
  | .nan, _ | _, .nan => .nan
  | .infinite _, .infinite _ => .nan
  | .infinite s, .finite t _ => .infinite (s != t)
  | .finite s _, .infinite t => zero (s != t)
  | .finite s m, .finite t n =>
    if n.units = 0 then (if m.units = 0 then .nan else .infinite (s != t))
    else ofRatio (s != t) (m.units * Magnitude.one) n.units

/-- The nearest integer, a half away from zero, held between `0` and `2 ^ 32 - 1`. -/
def roundToWord : Binary64 → Nat
  | .nan => 0
  | .infinite negative => if negative then 0 else UInt32.size - 1
  | .finite negative m =>
    if negative then 0
    else min ((2 * m.units + Magnitude.one) / (2 * Magnitude.one)) (UInt32.size - 1)

end Binary64

end SqlGrader
