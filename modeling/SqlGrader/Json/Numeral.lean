import SqlGrader.Binary64.Format

/-!
# Numbers in JSON texts

A numeral is an integer, perhaps with a fraction and a power of ten. Integers of 64 bits are
exact. Any other numeral is a floating-point number that comes from at most 64 bits of its
digits by one multiplication or division with a power of ten; this may differ in the last bit
from the number nearest to the numeral.
-/

set_option autoImplicit false

namespace SqlGrader.Json

/-- A numeral in its parts. There is no fraction without digits. -/
structure Numeral where
  negative : Bool
  whole : List Char
  fraction : List Char
  exponent? : Option Int
  deriving DecidableEq

inductive Number where
  | natural (n : Nat)
  | negative (i : Int)
  | real (x : Binary64)
  deriving DecidableEq

namespace Numeral

def isNumeralChar (c : Char) : Bool :=
  c.isDigit || c = '-' || c = '+' || c = '.' || c = 'e' || c = 'E'

/-- Digits without a zero in front, unless zero is all there is. -/
def isWhole (digits : List Char) : Bool :=
  match digits with
  | [] => false
  | ['0'] => true
  | c :: _ => c ≠ '0'

/-- The fraction at the front of a text; `none` if a point has no digit behind it. -/
def readFraction? : List Char → Option (List Char × List Char)
  | '.' :: rest =>
    let (digits, rest) := Decimal.splitDigits rest
    if digits = [] then none else some (digits, rest)
  | rest => some ([], rest)

/-- The power of ten that makes up the rest of a text, if there is one. -/
def readPower? : List Char → Option (Option Int)
  | [] => some none
  | c :: rest => if c = 'e' ∨ c = 'E' then (Text.readInt? rest).map some else none

def read? (cs : List Char) : Option Numeral :=
  let (negative, rest) := match cs with
    | '-' :: rest => (true, rest)
    | _ => (false, cs)
  let (whole, rest) := Decimal.splitDigits rest
  if isWhole whole then
    (readFraction? rest).bind fun (fraction, rest) =>
      (readPower? rest).map fun exponent? => ⟨negative, whole, fraction, exponent?⟩
  else none

/-- Appends digits to a significand as long as it fits into 64 bits, and returns those that are
left over. -/
def absorb (significand : Nat) : List Char → Nat × List Char
  | [] => (significand, [])
  | c :: rest =>
    let next := 10 * significand + (c.toNat - '0'.toNat)
    if next < UInt64.size then absorb next rest else (significand, c :: rest)

/-- Divides by a power of ten, by `10 ^ 308` at a time. -/
def scaleDown (x : Binary64) (places : Nat) : Binary64 :=
  if places ≤ 308 then x.div (.ofDecimal false ⟨1, places⟩)
  else if x = .zero false then x
  else scaleDown (x.div (.ofDecimal false ⟨1, 308⟩)) (places - 308)
termination_by places

/-- The significand times a power of ten; `none` if that is too large. -/
def scale? (significand : Nat) (exponent : Int) : Option Binary64 :=
  let x := Binary64.ofNat significand
  if exponent < 0 then some (scaleDown x exponent.natAbs)
  else if exponent ≤ 308 then
    let product := x.mul (.ofDecimal false ⟨1, exponent⟩)
    if product.isFinite then some product else none
  else if significand = 0 then some x
  else none

/-- The floating-point number of a numeral, if it is not too large. Digits of the integer that
do not fit into the significand raise the exponent, and those of the fraction are dropped. -/
def real? (n : Numeral) : Option Binary64 :=
  let (significand, dropped) := absorb 0 n.whole
  let (significand, ignored) := absorb significand n.fraction
  let exponent := dropped.length - (n.fraction.length - ignored.length : Nat) + n.exponent?.getD 0
  (scale? significand exponent).map fun x => if n.negative then x.neg else x

def value? (n : Numeral) : Option Number :=
  let integer := Nat.ofDigitChars 10 n.whole 0
  if n.fraction = [] ∧ n.exponent? = none then
    if n.negative then
      if integer ≠ 0 ∧ integer ≤ UInt64.size / 2 then some (.negative (-integer))
      else n.real?.map .real
    else if integer < UInt64.size then some (.natural integer)
    else n.real?.map .real
  else n.real?.map .real

end Numeral

end SqlGrader.Json
