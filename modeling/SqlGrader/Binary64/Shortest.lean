import SqlGrader.Binary64.Decimal

/-!
# Shortest decimals

The decimal with the fewest digits that reads back as a given number. On each grid of decimals,
from one digit to seventeen, only the two neighbours of the number are tried: if any point of
the grid reads back, one of them does. Where both do, the nearer one is taken. Main statement:
what is found on a grid reads back (`reads_back_of_nearest?`).
-/

set_option autoImplicit false

namespace SqlGrader

/-- Which of two equally near decimals is taken: the larger one, or the one with an even last
digit. -/
inductive TieRule where
  | away
  | toEven
  deriving DecidableEq

namespace Magnitude

/-- The power of ten of the first significant digit of a nonzero magnitude. The least one has
it at `10 ^ -324`. -/
def leadingExponent (m : Magnitude) : Int :=
  Decimal.digitCount (m.units * Nat.pow 10 324 / one) - 325

/-- Whether a decimal is read as this magnitude. -/
def readsBack (m : Magnitude) (d : Decimal) : Bool :=
  d.toMagnitude? = some m

/-- The nearest decimal of `count` digits that reads back, if there is one. -/
def nearest? (tie : TieRule) (m : Magnitude) (count : Nat) : Option Decimal :=
  let step := m.leadingExponent - count + 1
  let num := m.units * Nat.pow 10 (-step).toNat
  let den := one * Nat.pow 10 step.toNat
  let lower : Decimal := ⟨num / den, step⟩
  let upper : Decimal := ⟨num / den + 1, step⟩
  if m.readsBack lower then
    if m.readsBack upper then
      let twice := 2 * (num % den)
      if twice < den then some lower
      else if den < twice then some upper
      else match tie with
        | .away => some upper
        | .toEven => some (if num / den % 2 = 0 then lower else upper)
    else some lower
  else if m.readsBack upper then some upper
  else none

theorem reads_back_of_nearest? {tie : TieRule} {m : Magnitude} {count : Nat} {d : Decimal}
    (h : m.nearest? tie count = some d) : m.readsBack d = true := by
  simp only [nearest?] at h
  split at h
  · rename_i hlower
    split at h
    · rename_i hupper
      split at h
      · cases h; exact hlower
      · split at h
        · cases h; exact hupper
        · split at h
          · cases h; exact hupper
          · cases h
            split
            · exact hlower
            · exact hupper
    · cases h; exact hlower
  · split at h
    · rename_i hupper
      cases h; exact hupper
    · cases h

/-- The shortest decimal that reads back. Seventeen digits are always enough; should they not
be, all digits of the units are given. -/
def shortest (tie : TieRule) (m : Magnitude) : Decimal :=
  if m.units = 0 then ⟨0, 0⟩
  else ((List.range' 1 17).findSome? (m.nearest? tie)).getD
    ⟨m.units * Nat.pow 5 1074, -1074⟩

end Magnitude

end SqlGrader
