import Mathlib.Data.List.Forall2
import Mathlib.Data.List.Pairwise
import SqlGrader.Proofs.Score.Pairings

/-!
# What a comparison does not see

A comparison cell by cell depends on the texts of the cells only, and on the expected rows without
their order. The order of the actual rows decides which of the rows with one key is found, so that
it does not count if each key has one row. Main statement: `compare_presentation`.
-/

set_option autoImplicit false

namespace SqlGrader

namespace Row

/-- Lists of rows that differ in the writing of cells only: cell by cell they read the same. -/
def ReadAlike (rows others : List Row) : Prop :=
  List.Forall₂ (List.Forall₂ fun cell other => cell.normalized = other.normalized) rows others

theorem texts_eq_iff {row other : Row} :
    row.texts = other.texts ↔
      List.Forall₂ (fun cell other : Cell => cell.normalized = other.normalized) row other := by
  rw [← List.forall₂_eq_eq_eq, texts, texts, List.forall₂_map_left_iff, List.forall₂_map_right_iff]

theorem readAlike_iff {rows others : List Row} :
    ReadAlike rows others ↔ rows.map texts = others.map texts := by
  rw [← List.forall₂_eq_eq_eq, List.forall₂_map_left_iff, List.forall₂_map_right_iff]
  simp only [texts_eq_iff]
  rfl

end Row

namespace FuzzyScore

open Row

/-- The places of the texts of an expected row that are found in the first of some others with the
same first text. -/
def textMatches (actual : List (List String)) (expected : List String) : Nat :=
  (expected.head?.bind fun key => actual.find? (·.head? == some key)).elim 0
    fun row => (List.zipWith (· == ·) expected row).count true

theorem matchingPlaces_eq (expected actual : Row) :
    matchingPlaces expected actual =
      (List.zipWith (· == ·) expected.texts actual.texts).count true := by
  rw [matchingPlaces, texts, texts, List.zipWith_map]

theorem rowMatches_eq (actual : List Row) (expected : Row) :
    rowMatches actual expected = textMatches (actual.map texts) expected.texts := by
  cases expected with
  | nil => rfl
  | cons cell cells =>
    have key : (texts (cell :: cells)).head? = some cell.normalized := rfl
    rw [textMatches, key, Option.bind_some, find?_map_texts, rowMatches]
    cases actual.find? (startsWith cell.normalized) with
    | none => rfl
    | some row => exact matchingPlaces_eq _ row

/-- A comparison depends on the texts of the cells only. -/
theorem compare_congr {expected expected' actual actual' : List Row}
    (same : expected.map texts = expected'.map texts)
    (same' : actual.map texts = actual'.map texts) :
    compare expected actual = compare expected' actual' := by
  have length : expected.length = expected'.length := by simpa using congrArg List.length same
  have length' : actual.length = actual'.length := by simpa using congrArg List.length same'
  have matching : ∀ expected actual : List Row,
      expected.foldr (fun row count => rowMatches actual row + count) 0 =
        (expected.map texts).foldr
          (fun row count => textMatches (actual.map texts) row + count) 0 := by
    intro expected actual
    rw [List.foldr_map]
    simp only [rowMatches_eq]
  have total : ∀ expected : List Row,
      expected.foldr (fun row count => row.length + count) 0 =
        (expected.map texts).foldr (fun row count => row.length + count) 0 := by
    intro expected
    rw [List.foldr_map]
    simp only [texts, List.length_map]
  simp only [compare, matching, total, same, same', length, length']

/-! ## The order of rows -/

theorem sum_perm {rows reordered : List Row} (perm : reordered.Perm rows) (f : Row → Nat) :
    reordered.foldr (fun row count => f row + count) 0 =
      rows.foldr (fun row count => f row + count) 0 :=
  perm.foldr_eq' (fun row _ other _ count => Nat.add_left_comm (f other) (f row) count) 0

theorem compare_perm_expected {expected reordered : List Row} (perm : reordered.Perm expected)
    (actual : List Row) : compare reordered actual = compare expected actual := by
  simp only [compare, perm.length_eq, sum_perm perm]

theorem startsWith_iff {key : String} {row : Row} :
    startsWith key row = true ↔ row.key? = some key := by
  cases row <;> simp [startsWith, key?]

theorem eq_of_startsWith {rows : List Row} (distinct : (rows.filterMap key?).Nodup) {key : String}
    {row other : Row} (member : row ∈ rows) (member' : other ∈ rows)
    (keyed : startsWith key row = true) (keyed' : startsWith key other = true) : row = other := by
  have apart := List.pairwise_iff_getElem.1 (List.pairwise_filterMap.1 distinct)
  rw [startsWith_iff] at keyed keyed'
  obtain ⟨i, inside, rfl⟩ := List.getElem_of_mem member
  obtain ⟨j, inside', rfl⟩ := List.getElem_of_mem member'
  rcases Nat.lt_trichotomy i j with before | rfl | behind
  · exact absurd rfl (apart i j inside inside' before key keyed key keyed')
  · rfl
  · exact absurd rfl (apart j i inside' inside behind key keyed' key keyed)

/-- If each key has one row, that row is found in every order. -/
theorem find?_perm {rows reordered : List Row} (distinct : (rows.filterMap key?).Nodup)
    (perm : reordered.Perm rows) (key : String) :
    reordered.find? (startsWith key) = rows.find? (startsWith key) := by
  cases found : rows.find? (startsWith key) with
  | none =>
    rw [List.find?_eq_none] at found ⊢
    exact fun row member => found row (perm.mem_iff.1 member)
  | some row =>
    have member := List.mem_of_find?_eq_some found
    have some? : (reordered.find? (startsWith key)).isSome :=
      List.find?_isSome.2 ⟨row, perm.mem_iff.2 member, List.find?_some found⟩
    obtain ⟨other, found'⟩ := Option.isSome_iff_exists.1 some?
    have member' := perm.mem_iff.1 (List.mem_of_find?_eq_some found')
    rw [found', eq_of_startsWith distinct member' member (List.find?_some found')
      (List.find?_some found)]

theorem compare_perm_actual {actual reordered : List Row} (expected : List Row)
    (distinct : (actual.filterMap key?).Nodup) (perm : reordered.Perm actual) :
    compare expected reordered = compare expected actual := by
  have matching : ∀ row, rowMatches reordered row = rowMatches actual row := by
    intro row
    simp only [rowMatches, find?_perm distinct perm]
  simp only [compare, perm.length_eq, matching]

/-- A comparison is the same for the expected rows in any order, for cells that are written
differently and read the same, and for the actual rows in any order if those that are not empty have
keys of their own. -/
theorem compare_presentation (expected actual : List Row) :
    (∀ reordered : List Row, reordered.Perm expected →
      compare reordered actual = compare expected actual) ∧
    (∀ expected' actual' : List Row, ReadAlike expected' expected → ReadAlike actual' actual →
      compare expected' actual' = compare expected actual) ∧
    ((actual.filterMap key?).Nodup → ∀ reordered : List Row, reordered.Perm actual →
      compare expected reordered = compare expected actual) :=
  ⟨fun _ perm => compare_perm_expected perm actual,
    fun _ _ same same' => compare_congr (readAlike_iff.1 same) (readAlike_iff.1 same'),
    fun distinct _ perm => compare_perm_actual expected distinct perm⟩

/-- Two expected rows with one key, rows of different lengths, and an answer in another order and
another writing. -/
theorem compare_presentation_reversed :
    let expected : List Row := [[.integer 1, .text "a"], [], [.integer 1, .text "b", .null]]
    let written : List Row := [[.text " 1", .text "A"], [], [.integer 1, .text "b", .text "Null"]]
    let actual : List Row := [[.text "x", .integer 2], [], [.float (.ofInt 1), .text "B"]]
    expected.reverse.Perm expected ∧ ReadAlike written expected ∧ ReadAlike actual actual ∧
    (actual.filterMap key?).Nodup ∧ actual.reverse.Perm actual ∧
    compare expected.reverse actual = ⟨60, 3, 5, 3, 3⟩ ∧
    compare written actual = ⟨60, 3, 5, 3, 3⟩ ∧
    compare expected actual.reverse = ⟨60, 3, 5, 3, 3⟩ := by
  intro expected written actual
  have score : compare expected actual = ⟨60, 3, 5, 3, 3⟩ := by decide +kernel
  have alike : ReadAlike written expected := readAlike_iff.2 (by decide +kernel)
  have itself : ReadAlike actual actual := readAlike_iff.2 rfl
  have distinct : (actual.filterMap key?).Nodup := by decide +kernel
  obtain ⟨order, writing, actualOrder⟩ := compare_presentation expected actual
  refine ⟨expected.reverse_perm, alike, itself, distinct, actual.reverse_perm, ?_, ?_, ?_⟩
  · rw [order _ expected.reverse_perm, score]
  · rw [writing _ _ alike itself, score]
  · rw [actualOrder distinct _ actual.reverse_perm, score]

end FuzzyScore

end SqlGrader
