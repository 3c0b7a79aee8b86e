import SqlGrader.Binary64.Shortest

/-!
# Number formats

A number is written with its shortest digits. A format decides which of two equally near
decimals that is, where positional notation ends, and how fractions and exponents look.
-/

set_option autoImplicit false

namespace SqlGrader

/-- The decisions of one written form of numbers. -/
structure NumberFormat where
  /-- Which of two equally near shortest decimals is written. -/
  tie : TieRule
  /-- Whether a number whose first digit has this power of ten is written positionally. -/
  positional : Int → Bool
  /-- Whether an integer in positional notation ends in `.0`. -/
  pointZero : Bool
  /-- Whether an exponent that is not negative has a plus. -/
  exponentPlus : Bool

namespace NumberFormat

/-- All digits in their places, and no point without digits behind it. -/
def plain : NumberFormat where
  tie := .away
  positional _ := true
  pointZero := false
  exponentPlus := false

/-- The form in messages: a fraction is always shown, and magnitudes below `10 ^ -4` or from
`10 ^ 16` on have an exponent. -/
def message : NumberFormat where
  tie := .away
  positional e := -4 ≤ e && e < 16
  pointZero := true
  exponentPlus := false

/-- The form in JSON texts. -/
def json : NumberFormat where
  tie := .toEven
  positional e := -5 ≤ e && e < 16
  pointZero := true
  exponentPlus := true

def dropTrailingZeros (digits : List Char) : List Char :=
  (digits.reverse.dropWhile (· = '0')).reverse

/-- Digits in their places, the first of them at the power of ten `lead`. -/
def positionalText (pointZero : Bool) (digits : List Char) (lead : Int) : List Char :=
  if lead < 0 then
    '0' :: '.' :: List.replicate (-lead - 1).toNat '0' ++ digits
  else
    let places := lead.toNat + 1
    if digits.length ≤ places then
      digits ++ List.replicate (places - digits.length) '0' ++
        (if pointZero then ['.', '0'] else [])
    else digits.take places ++ '.' :: digits.drop places

/-- One digit, the others behind a point, and the power of ten of the first one. -/
def exponentText (plus : Bool) (digits : List Char) (lead : Int) : List Char :=
  let significand := match digits with
    | d :: e :: rest => d :: '.' :: e :: rest
    | _ => digits
  let sign := if lead < 0 then ['-'] else if plus then ['+'] else []
  significand ++ 'e' :: sign ++ Nat.toDigits 10 lead.natAbs

def magnitudeText (f : NumberFormat) (m : Magnitude) : List Char :=
  if m.units = 0 then positionalText f.pointZero ['0'] 0
  else
    let d := m.shortest f.tie
    let digits := Nat.toDigits 10 d.coefficient
    let lead := d.exponent + digits.length - 1
    let significant := dropTrailingZeros digits
    if f.positional lead then positionalText f.pointZero significant lead
    else exponentText f.exponentPlus significant lead

def text (f : NumberFormat) : Binary64 → List Char
  | .nan => ['N', 'a', 'N']
  | .infinite negative => (if negative then ['-'] else []) ++ ['i', 'n', 'f']
  | .finite negative m => (if negative then ['-'] else []) ++ f.magnitudeText m

end NumberFormat

end SqlGrader
