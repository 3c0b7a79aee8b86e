import SqlGrader.Grader
import SqlGrader.Proofs.Binary64.Integers

/-!
# Full matches

The two ways to compare an answer, on answers that are right. Row by row the expected rows have to
equal the answer; cell by cell each of them is compared with the first row of the answer that
begins with the same text. Equal cells have the same text, apart from some numbers
(`normalized_eq_of_equals`), so that only an expected row that does not read like the first one
with its key can lose cells. Main statement: `fuzzy_of_exact`.
-/

set_option autoImplicit false

namespace SqlGrader

/-! ## Cells -/

namespace Binary64

/-- Equal numbers are the same, except that zeros may differ in sign. -/
theorem eq_of_equals {x y : Binary64} (equal : x.equals y = true)
    (zeros : x = .zero true ↔ y = .zero true) : x = y := by
  have bounded : ∀ m : Magnitude, (m.units : Int) < Magnitude.limit := fun m =>
    Int.ofNat_lt.2 m.units_lt_limit
  unfold equals at equal
  cases x with
  | nan => cases equal
  | infinite s =>
    cases y with
    | nan => cases equal
    | infinite t =>
      have positive : (0 : Int) < Magnitude.limit := by decide +kernel
      cases s <;> cases t <;> simp [place?] at equal ⊢ <;> omega
    | finite t n =>
      have below := bounded n
      cases s <;> cases t <;> simp [place?] at equal <;> omega
  | finite s m =>
    cases y with
    | nan => cases equal
    | infinite t =>
      have below := bounded m
      cases s <;> cases t <;> simp [place?] at equal <;> omega
    | finite t n =>
      have units : m.units = n.units := by
        cases s <;> cases t <;> simp [place?] at equal <;> omega
      obtain rfl := Magnitude.eq_of_units units
      by_cases signs : s = t
      · rw [signs]
      · -- only zeros have the same place under both signs
        have zero : m.units = 0 := by
          cases s <;> cases t <;> simp [place?] at equal signs <;> omega
        obtain rfl := Magnitude.eq_zero_of_units zero
        cases s <;> cases t <;> simp [Binary64.zero] at zeros signs

end Binary64

namespace Cell

/-- Pairs of cells that are written in the same way if they are equal: an integer against a number
is not beyond `2 ^ 53`, and a negative zero stands against a negative zero only. -/
def SameNotation : Cell → Cell → Prop
  | integer i, float x | float x, integer i => i.toInt.natAbs ≤ 2 ^ 53 ∧ x ≠ .zero true
  | float x, float y => x = .zero true ↔ y = .zero true
  | _, _ => True

instance : ∀ a b : Cell, Decidable (a.SameNotation b)
  | integer _, float _ | float _, integer _ => inferInstanceAs (Decidable (_ ∧ _))
  | float _, float _ => inferInstanceAs (Decidable (_ ↔ _))
  | null, _ | text _, _ | integer _, null | integer _, integer _ | integer _, text _
  | float _, null | float _, text _ => .isTrue trivial

theorem display_of_integer_equals {i : Int64} {x : Binary64}
    (equal : (Binary64.ofInt64 i).equals x = true) (bits : i.toInt.natAbs ≤ 2 ^ 53)
    (sign : x ≠ .zero true) : (integer i).display = (float x).display := by
  obtain ⟨m, value, exact, text⟩ := Binary64.exists_ofInt bits
  have same : Binary64.ofInt64 i = x := by
    refine Binary64.eq_of_equals equal (iff_of_false ?_ sign)
    rw [Binary64.ofInt64, value]
    intro zero
    simp only [Binary64.zero, Binary64.finite.injEq, decide_eq_true_eq] at zero
    obtain ⟨negative, rfl⟩ := zero
    have positive : 0 < i.toInt.natAbs * Magnitude.one := Nat.mul_pos (by omega) Magnitude.one_pos
    rw [← exact] at positive
    exact absurd positive (by decide)
  rw [display, display, ← same, Binary64.ofInt64, value, text]

/-- Equal cells are written in the same way, but for some numbers. -/
theorem display_eq_of_equals {a b : Cell} (equal : a.equals b = true)
    (alike : a.SameNotation b) : a.display = b.display := by
  cases a <;> cases b <;> try cases equal
  · rfl
  · rw [of_decide_eq_true equal]
  · exact display_of_integer_equals equal alike.1 alike.2
  · exact (display_of_integer_equals equal alike.1 alike.2).symm
  · rw [Binary64.eq_of_equals equal alike]
  · rw [of_decide_eq_true equal]

theorem normalized_eq_of_equals {a b : Cell} (equal : a.equals b = true)
    (alike : a.SameNotation b) : a.normalized = b.normalized := by
  rw [normalized, normalized, display_eq_of_equals equal alike]

end Cell

/-! ## Rows -/

namespace Row

def texts (row : Row) : List String :=
  row.map Cell.normalized

/-- A row reads like a front of the first of some rows that begins with the same text. -/
def ReadsIn (rows : List Row) (row : Row) : Prop :=
  ∀ key, row.texts.head? = some key →
    ∃ first, (rows.map texts).find? (·.head? == some key) = some first ∧ row.texts <+: first

theorem texts_eq_of_equals {r s : Row} (equal : r.equals s = true)
    (alike : ∀ cells ∈ r.zip s, cells.1.equals cells.2 = true → cells.1.SameNotation cells.2) :
    r.texts = s.texts := by
  induction r generalizing s with
  | nil =>
    cases s with
    | nil => rfl
    | cons b s => cases equal
  | cons a r ih =>
    cases s with
    | nil => cases equal
    | cons b s =>
      obtain ⟨first, rest⟩ : a.equals b = true ∧ Row.equals r s = true := by
        simpa [equals, List.isEqv] using equal
      have head := Cell.normalized_eq_of_equals first (alike (a, b) List.mem_cons_self first)
      have tail := ih rest fun cells member => alike cells (List.mem_cons_of_mem _ member)
      rw [texts, List.map_cons, head]
      exact congrArg _ tail

/-- Equal lists of rows have the same texts, but for some numbers. -/
theorem map_texts_eq_of_allEqual {rs ss : List Row} (equal : allEqual rs ss = true)
    (alike : ∀ rows ∈ rs.zip ss, ∀ cells ∈ rows.1.zip rows.2,
      cells.1.equals cells.2 = true → cells.1.SameNotation cells.2) :
    rs.map texts = ss.map texts := by
  induction rs generalizing ss with
  | nil =>
    cases ss with
    | nil => rfl
    | cons s ss => cases equal
  | cons r rs ih =>
    cases ss with
    | nil => cases equal
    | cons s ss =>
      obtain ⟨first, rest⟩ : r.equals s = true ∧ allEqual rs ss = true := by
        simpa [allEqual, List.isEqv] using equal
      have head := texts_eq_of_equals first (alike (r, s) List.mem_cons_self)
      have tail := ih rest fun rows member => alike rows (List.mem_cons_of_mem _ member)
      rw [List.map_cons, head, tail]
      rfl

end Row

/-! ## Counts -/

namespace FuzzyScore

theorem matchingPlaces_le (expected actual : Row) :
    matchingPlaces expected actual ≤ expected.length := by
  unfold matchingPlaces
  refine Nat.le_trans List.count_le_length ?_
  rw [List.length_zipWith]
  exact Nat.min_le_left _ _

/-- All places of a row match exactly when it reads like a front of the other one. -/
theorem matchingPlaces_eq_length_iff (expected actual : Row) :
    matchingPlaces expected actual = expected.length ↔ expected.texts <+: actual.texts := by
  induction expected generalizing actual with
  | nil => simp [matchingPlaces, Row.texts]
  | cons a expected ih =>
    cases actual with
    | nil => simp [matchingPlaces, Row.texts]
    | cons b actual =>
      have rest := matchingPlaces_le expected actual
      have step : matchingPlaces (a :: expected) (b :: actual) =
          matchingPlaces expected actual + if a.normalized = b.normalized then 1 else 0 := by
        simp [matchingPlaces, List.count_cons]
      have texts : Row.texts (a :: expected) <+: Row.texts (b :: actual) ↔
          a.normalized = b.normalized ∧ Row.texts expected <+: Row.texts actual := by
        simp [Row.texts, List.cons_prefix_cons]
      rw [step, texts, ← ih, List.length_cons]
      split
      · rename_i same
        simp [same]
      · rename_i different
        simp [different]
        omega

theorem find?_map_texts (rows : List Row) (key : String) :
    (rows.map Row.texts).find? (·.head? == some key) =
      (rows.find? (startsWith key)).map Row.texts := by
  have keyed : (fun row : Row => row.texts.head? == some key) = startsWith key := by
    funext row
    cases row <;> simp [Row.texts, startsWith]
  rw [List.find?_map]
  exact congrArg (fun p => (rows.find? p).map Row.texts) keyed

theorem rowMatches_le (actual : List Row) (expected : Row) :
    rowMatches actual expected ≤ expected.length := by
  unfold rowMatches
  split
  · exact Nat.le_refl 0
  · split
    · exact matchingPlaces_le _ _
    · exact Nat.zero_le _

/-- No cell of a row is lost exactly when the row reads in the answer. -/
theorem rowMatches_eq_length_iff (actual : List Row) (expected : Row) :
    rowMatches actual expected = expected.length ↔ expected.ReadsIn actual := by
  cases expected with
  | nil => simp [rowMatches, Row.ReadsIn, Row.texts]
  | cons cell rest =>
    have key : (Row.texts (cell :: rest)).head? = some cell.normalized := rfl
    simp only [rowMatches, Row.ReadsIn, key, Option.some.injEq, forall_eq', find?_map_texts]
    cases actual.find? (startsWith cell.normalized) with
    | none => simp
    | some row => simpa using matchingPlaces_eq_length_iff (cell :: rest) row

instance (rows : List Row) (row : Row) : Decidable (row.ReadsIn rows) :=
  decidable_of_iff _ (rowMatches_eq_length_iff rows row)

/-- The cells of expected rows that are found, and all their cells. -/
theorem matching_le_total (expected actual : List Row) :
    expected.foldr (fun row count => rowMatches actual row + count) 0 ≤
        expected.foldr (fun row count => row.length + count) 0 ∧
      (expected.foldr (fun row count => rowMatches actual row + count) 0 =
          expected.foldr (fun row count => row.length + count) 0 ↔
        ∀ row ∈ expected, row.ReadsIn actual) := by
  induction expected with
  | nil => simp
  | cons row rest ih =>
    have first := rowMatches_le actual row
    rw [List.forall_mem_cons, ← rowMatches_eq_length_iff, ← ih.2]
    simp only [List.foldr_cons]
    have le := ih.1
    omega

/-- Only a full match has the full percentage. -/
theorem cellPercentage_eq_hundred_iff {matching total : Nat} (le : matching ≤ total) :
    cellPercentage matching total = 100 ↔ matching = total := by
  unfold cellPercentage
  split <;> omega

/-- Answers of the expected length have the full percentage exactly when every expected row reads
in the answer. -/
theorem compare_full {expected actual : List Row} (length : expected.length = actual.length) :
    let score := compare expected actual
    score.rowCountDiffers = false ∧
    (score.percentage = 100 ↔ score.matchingCells = score.totalCells) ∧
    (score.matchingCells = score.totalCells ↔ ∀ row ∈ expected, row.ReadsIn actual) := by
  obtain ⟨le, full⟩ := matching_le_total expected actual
  simp only [compare, length, ne_eq, not_true_eq_false, if_false]
  exact ⟨by simp [rowCountDiffers], cellPercentage_eq_hundred_iff le, full⟩

end FuzzyScore

namespace Grader

/-- An answer that is right under the exact policy has a full match under the fuzzy one exactly when
every expected row reads like the first expected row with its key, as far as equal cells are
written in the same way. If so, the fuzzy policy awards no fewer points than the exact one, to
right answers and to others. -/
theorem fuzzy_of_exact (test : QueryTest) (query : String) {actual : List Row}
    (alike : ∀ rows ∈ test.expectedOutput.zip actual, ∀ cells ∈ rows.1.zip rows.2,
      cells.1.equals cells.2 = true → cells.1.SameNotation cells.2) :
    let expected := test.expectedOutput
    let score := FuzzyScore.compare expected actual
    (Row.allEqual expected actual = true →
      score.rowCountDiffers = false ∧
      (score.percentage = 100 ↔ score.matchingCells = score.totalCells) ∧
      (score.matchingCells = score.totalCells ↔ ∀ row ∈ expected, row.ReadsIn expected)) ∧
    ((∀ row ∈ expected, row.ReadsIn expected) →
      (exactResult test query actual).points ≤ (fuzzyResult test query actual).points) := by
  intro expected score
  have full : Row.allEqual expected actual = true →
      score.rowCountDiffers = false ∧
      (score.percentage = 100 ↔ score.matchingCells = score.totalCells) ∧
      (score.matchingCells = score.totalCells ↔ ∀ row ∈ expected, row.ReadsIn expected) := by
    intro equal
    have texts := Row.map_texts_eq_of_allEqual equal alike
    have length : expected.length = actual.length := by
      simpa using congrArg List.length texts
    have compared := FuzzyScore.compare_full length
    simp only [Row.ReadsIn, ← texts] at compared
    exact compared
  refine ⟨full, fun reads => ?_⟩
  cases equal : Row.allEqual expected actual with
  | false =>
    have refused : Row.allEqual test.expectedOutput actual = false := equal
    simp [exactResult, refused]
  | true =>
    obtain ⟨-, percentage, matching⟩ := full equal
    have passed : Row.allEqual test.expectedOutput actual = true := equal
    have hundred : (FuzzyScore.compare test.expectedOutput actual).percentage = 100 :=
      percentage.2 (matching.2 reads)
    simp [exactResult, fuzzyResult, award, passed, hundred]

/-- Numbers of both kinds, the largest integer that is written like its number, a negative zero, an
empty row, and two rows with one key that read the same. -/
theorem fuzzy_of_exact_numbers :
    let number := fun i : Int => Cell.float (.ofInt i)
    let test : QueryTest := ⟨"numbers", "", "SELECT * FROM t", none,
      [[.integer 9007199254740992, .text "a"], [.float (.zero true), .null], [],
        [.integer 1, .text " B "], [number 1, .text "b"]], 20⟩
    let actual : List Row :=
      [[number 9007199254740992, .text "a"], [.float (.zero true), .null], [],
        [number 1, .text " B "], [.integer 1, .text "b"]]
    (FuzzyScore.compare test.expectedOutput actual).percentage = 100 ∧
    (exactResult test "SELECT * FROM t" actual).points ≤
      (fuzzyResult test "SELECT * FROM t" actual).points := by
  intro number test actual
  have alike : ∀ rows ∈ test.expectedOutput.zip actual, ∀ cells ∈ rows.1.zip rows.2,
      cells.1.equals cells.2 = true → cells.1.SameNotation cells.2 := by decide +kernel
  have reads : ∀ row ∈ test.expectedOutput, row.ReadsIn test.expectedOutput := by decide +kernel
  have equal : Row.allEqual test.expectedOutput actual = true := by decide +kernel
  obtain ⟨full, points⟩ := fuzzy_of_exact test "SELECT * FROM t" alike
  obtain ⟨-, percentage, matching⟩ := full equal
  exact ⟨percentage.2 (matching.2 reads), points reads⟩

/-- Answers that are right under the exact policy and lose points under the fuzzy one: two rows with
one key that do not read the same, an integer beyond `2 ^ 53` against a number, and a negative
zero against zero. -/
theorem not_always_full_of_allEqual :
    let twice : List Row := [[.integer 1, .text "a"], [.integer 1, .text "b"]]
    let large : List Row := [[.integer 9007199254740993]]
    let rounded : List Row := [[.float (.ofInt 9007199254740993)]]
    let test : List Row → QueryTest := fun expected => ⟨"rows", "", "", none, expected, 20⟩
    (Row.allEqual twice twice = true ∧
      FuzzyScore.compare twice twice = ⟨75, 3, 4, 2, 2⟩ ∧
      (exactResult (test twice) "" twice).points = 20 ∧
      (fuzzyResult (test twice) "" twice).points = 15) ∧
    (Row.allEqual large rounded = true ∧
      FuzzyScore.compare large rounded = ⟨0, 0, 1, 1, 1⟩) ∧
    (Row.allEqual [[.float (.zero false)]] [[.float (.zero true)]] = true ∧
      FuzzyScore.compare [[.float (.zero false)]] [[.float (.zero true)]] = ⟨0, 0, 1, 1, 1⟩) := by
  decide +kernel

end Grader

end SqlGrader
