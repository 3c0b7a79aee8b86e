import SqlGrader.Cell

/-!
# Scores

How the rows of an answer are compared with the expected ones, and the points that follow.
Percentages are computed in binary64 and rounded half up. Main statement: an award is never
more than the points at stake (`award_le`).

Source: `exact_match`, `fuzzy_score`, `cell_percentage` and `award`; `SPEC_FULL.md`, section 4.3.
-/

set_option autoImplicit false

namespace SqlGrader

inductive ComparePolicy where
  /-- All rows in their order, or nothing. -/
  | exact
  /-- Cell by cell, with part of the points for part of the cells. -/
  | fuzzy
  deriving DecidableEq

structure FuzzyScore where
  percentage : Nat
  matchingCells : Nat
  totalCells : Nat
  expectedRows : Nat
  actualRows : Nat
  deriving DecidableEq

/-- The percentage from which on part of the points is awarded. -/
def partialCreditThreshold : Nat := 70

/-- The rounded value of `a * b / c` in binary64. -/
def roundedRatio (a b c : Nat) : Nat :=
  (((Binary64.ofNat a).mul (.ofNat b)).div (.ofNat c)).roundToWord

namespace FuzzyScore

/-- The percentage that each missing or extra row costs. -/
def rowPenalty : Nat := 20

/-- Whether there are as many rows as expected. -/
def rowCountDiffers (score : FuzzyScore) : Bool :=
  score.expectedRows != score.actualRows

/-- The part of the cells that match. Rounding never makes all of a part. -/
def cellPercentage (matching total : Nat) : Nat :=
  if total = 0 ∨ matching = total then 100 else min (roundedRatio 100 matching total) 99

/-- Whether a row begins with a cell that reads the same. -/
def startsWith (key : String) (row : Row) : Bool :=
  row.head?.any fun cell => cell.normalized == key

/-- The number of places at which two rows have cells that read the same. -/
def matchingPlaces (expected actual : Row) : Nat :=
  (List.zipWith (fun a b => a.normalized == b.normalized) expected actual).count true

/-- The cells of an expected row that are found in the first actual row with the same first
cell. -/
def rowMatches (actual : List Row) (expected : Row) : Nat :=
  match expected with
  | [] => 0
  | first :: _ =>
    match actual.find? (startsWith first.normalized) with
    | some row => matchingPlaces expected row
    | none => 0

/-- The comparison of two lists of rows. Only the numbers of rows count if they differ. -/
def compare (expected actual : List Row) : FuzzyScore :=
  if expected.length ≠ actual.length then
    let difference := max expected.length actual.length - min expected.length actual.length
    ⟨100 - rowPenalty * difference, 0, 0, expected.length, actual.length⟩
  else
    let matching := expected.foldr (fun row count => rowMatches actual row + count) 0
    let total := expected.foldr (fun row count => row.length + count) 0
    ⟨cellPercentage matching total, matching, total, expected.length, actual.length⟩

end FuzzyScore

/-! ## Points -/

/-- A sum of two numbers of points, unless it takes more than 32 bits. -/
def addPoints? (total points : Nat) : Option Nat :=
  if total + points < UInt32.size then some (total + points) else none

/-- The sum of points, unless a sum on the way takes more than 32 bits. -/
def sumPoints? (points : List Nat) : Option Nat :=
  points.foldlM addPoints? 0

theorem foldlM_addPoints?_eq_some_iff {points : List Nat} {start total : Nat}
    (small : start < UInt32.size) :
    points.foldlM addPoints? start = some total ↔
      total = start + points.foldr (· + ·) 0 ∧ total < UInt32.size := by
  induction points generalizing start with
  | nil =>
    rw [List.foldlM_nil, List.foldr_nil, Nat.add_zero]
    constructor
    · rintro ⟨⟩
      exact ⟨rfl, small⟩
    · rintro ⟨rfl, -⟩
      rfl
  | cons first rest ih =>
    rw [List.foldlM_cons, List.foldr_cons, addPoints?, ← Nat.add_assoc]
    split
    · rename_i fits
      exact ih fits
    · rename_i overflows
      refine iff_of_false nofun ?_
      rintro ⟨rfl, fits⟩
      exact overflows (Nat.lt_of_le_of_lt (Nat.le_add_right _ _) fits)

/-- A sum is there exactly if it fits 32 bits: no sum on the way is larger. -/
theorem sumPoints?_eq_some_iff {points : List Nat} {total : Nat} :
    sumPoints? points = some total ↔ total = points.foldr (· + ·) 0 ∧ total < UInt32.size := by
  rw [sumPoints?, foldlM_addPoints?_eq_some_iff (by decide), Nat.zero_add]

/-- The points that a percentage earns. -/
def award (points percentage : Nat) : Nat :=
  if 100 ≤ percentage then points
  else if partialCreditThreshold ≤ percentage then min (roundedRatio points percentage 100) points
  else 0

theorem award_le (points percentage : Nat) : award points percentage ≤ points := by
  unfold award
  repeat' split
  · exact Nat.le_refl _
  · exact Nat.min_le_right _ _
  · exact Nat.zero_le _

end SqlGrader
