import SqlGrader.Binary64.Basic
import SqlGrader.Text.Numeral

/-!
# Decimals as binary64 numbers

A decimal is `coefficient · 10 ^ exponent`. It is read from text exactly and then rounded once
to the nearest number.
-/

set_option autoImplicit false

namespace SqlGrader

/-- The value `coefficient · 10 ^ exponent`. -/
structure Decimal where
  coefficient : Nat
  exponent : Int
  deriving DecidableEq

namespace Decimal

/-- How many decimal digits a natural number has; one for zero. -/
def digitCount (n : Nat) : Nat :=
  (Nat.toDigits 10 n).length

/-- The value in units of binary64, as a numerator. -/
def numerator (d : Decimal) : Nat :=
  d.coefficient * Nat.pow 10 d.exponent.toNat * Magnitude.one

def denominator (d : Decimal) : Nat :=
  Nat.pow 10 (-d.exponent).toNat

/-- The nearest magnitude, if it is not too large. A value below `10 ^ -330` is nearest to
zero and one from `10 ^ 330` on is too large, so that no such power is formed. -/
def toMagnitude? (d : Decimal) : Option Magnitude :=
  let top := d.exponent + digitCount d.coefficient
  if d.coefficient = 0 ∨ top < -330 then some .zero
  else if 330 < top then none
  else Magnitude.ofRatio? d.numerator d.denominator

/-- Splits a text after its leading digits. -/
def splitDigits (cs : List Char) : List Char × List Char :=
  (cs.takeWhile Char.isDigit, cs.dropWhile Char.isDigit)

/-- The power of ten that may end a decimal: the letter `e` and a signed integer. -/
def readExponent? : List Char → Option Int
  | [] => some 0
  | c :: rest => if c = 'e' ∨ c = 'E' then Text.readInt? rest else none

/-- Digits with at most one point, of which at least one digit, and an optional exponent. -/
def read? (cs : List Char) : Option Decimal :=
  let (whole, rest) := splitDigits cs
  let (fraction, rest) := match rest with
    | '.' :: rest => splitDigits rest
    | _ => ([], rest)
  if whole = [] ∧ fraction = [] then none
  else (readExponent? rest).map fun exponent =>
    ⟨Nat.ofDigitChars 10 (whole ++ fraction) 0, exponent - fraction.length⟩

end Decimal

namespace Binary64

def ofDecimal (negative : Bool) (d : Decimal) : Binary64 :=
  match d.toMagnitude? with
  | some m => .finite negative m
  | none => .infinite negative

/-- Reads a number: an optional sign, then a decimal or, in any case, one of the words `inf`,
`infinity` and `nan`. -/
def read? (cs : List Char) : Option Binary64 :=
  let (negative, body) := Text.splitSign cs
  let word := String.ofList (body.map Char.toLower)
  if word = "inf" ∨ word = "infinity" then some (.infinite negative)
  else if word = "nan" then some .nan
  else (Decimal.read? body).map (ofDecimal negative)

end Binary64

end SqlGrader
