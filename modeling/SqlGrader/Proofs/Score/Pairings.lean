import Mathlib.Data.Fintype.EquivFin
import SqlGrader.Proofs.Score.FullMatches

/-!
# Pairings of rows

A comparison cell by cell looks for each expected row on its own, in the first row with its key.
If the expected rows have keys of their own, no row is found twice; a full comparison of as many
rows then finds all of them, and each expected row has one of its own. Main statement:
`percentage_eq_hundred_iff_pairing`.
-/

set_option autoImplicit false

namespace SqlGrader

namespace Row

/-- The text by which a row is found: that of its first cell. -/
def key? (row : Row) : Option String :=
  row.head?.map Cell.normalized

/-- A row has a cell that reads the same wherever the expected one has a cell; it may be longer. -/
def Agrees (expected actual : Row) : Prop :=
  expected.length ≤ actual.length ∧
    ∀ i (h : i < expected.length) (h' : i < actual.length),
      expected[i].normalized = actual[i].normalized

theorem head?_texts (row : Row) : row.texts.head? = row.key? :=
  List.head?_map

theorem agrees_iff {expected actual : Row} :
    expected.Agrees actual ↔ expected.texts <+: actual.texts := by
  simp only [List.prefix_iff_getElem, texts, List.length_map, List.getElem_map]
  constructor
  · rintro ⟨length, same⟩
    exact ⟨length, fun i inside => same i inside (Nat.lt_of_lt_of_le inside length)⟩
  · rintro ⟨length, same⟩
    exact ⟨length, fun i inside _ => same i inside⟩

/-- A row that agrees with one that is not empty has its key. -/
theorem Agrees.key?_eq {expected actual : Row} (agrees : expected.Agrees actual)
    (nonempty : expected ≠ []) : actual.key? = expected.key? := by
  obtain ⟨rest, whole⟩ := agrees_iff.1 agrees
  obtain ⟨cell, cells, rfl⟩ := List.exists_cons_of_ne_nil nonempty
  rw [← head?_texts, ← whole]
  rfl

/-- A row that reads in some rows agrees with one of them. -/
theorem ReadsIn.exists_agrees {rows : List Row} {row : Row} (reads : row.ReadsIn rows)
    (nonempty : row ≠ []) : ∃ i : Fin rows.length, row.Agrees rows[i] := by
  obtain ⟨cell, cells, rfl⟩ := List.exists_cons_of_ne_nil nonempty
  obtain ⟨first, found, front⟩ := reads cell.normalized rfl
  obtain ⟨other, member, rfl⟩ := List.mem_map.1 (List.mem_of_find?_eq_some found)
  obtain ⟨i, inside, rfl⟩ := List.getElem_of_mem member
  exact ⟨⟨i, inside⟩, agrees_iff.2 front⟩

/-- A row reads in some rows if it agrees with all of them that have its key, and there is one. -/
theorem readsIn_of_agrees {rows : List Row} {row : Row}
    (found : ∃ other ∈ rows, other.key? = row.key?)
    (agrees : ∀ other ∈ rows, other.key? = row.key? → row.Agrees other) : row.ReadsIn rows := by
  intro key isKey
  rw [head?_texts] at isKey
  obtain ⟨other, member, same⟩ := found
  have some? : ((rows.map texts).find? (·.head? == some key)).isSome := by
    rw [List.find?_isSome]
    exact ⟨_, List.mem_map_of_mem member, by simp [head?_texts, same, isKey]⟩
  obtain ⟨first, first?⟩ := Option.isSome_iff_exists.1 some?
  obtain ⟨paired, isRow, rfl⟩ := List.mem_map.1 (List.mem_of_find?_eq_some first?)
  have keyed : paired.key? = row.key? := by
    rw [isKey, ← head?_texts]
    simpa using List.find?_some first?
  exact ⟨_, first?, agrees_iff.1 (agrees paired isRow keyed)⟩

end Row

namespace FuzzyScore

open Row

/-- Each row that is missing or too many costs a part of the percentage. -/
theorem length_eq_of_hundred {expected actual : List Row}
    (full : (compare expected actual).percentage = 100) : expected.length = actual.length := by
  unfold compare at full
  split at full
  · rename_i different
    simp only [rowPenalty] at full
    omega
  · rename_i same
    exact not_not.1 same

/-- Rows with keys of their own that read in as many rows have one each. -/
theorem exists_pairing {expected actual : List Row} (length : expected.length = actual.length)
    (nonempty : ∀ row ∈ expected, row ≠ []) (distinct : (expected.map key?).Nodup)
    (reads : ∀ row ∈ expected, row.ReadsIn actual) :
    ∃ pairing : Fin expected.length ≃ Fin actual.length,
      ∀ i : Fin expected.length, Agrees expected[i] actual[pairing i] := by
  have member : ∀ i : Fin expected.length, expected[i] ∈ expected := fun _ => List.getElem_mem _
  have found : ∀ i : Fin expected.length, ∃ j : Fin actual.length,
      Agrees expected[i] actual[j] := fun i =>
    (reads _ (member i)).exists_agrees (nonempty _ (member i))
  choose pairing agrees using found
  have injective : Function.Injective pairing := by
    intro i j same
    have key : Row.key? expected[i] = Row.key? expected[j] := by
      rw [← (agrees i).key?_eq (nonempty _ (member i)),
        ← (agrees j).key?_eq (nonempty _ (member j)), same]
    have row : expected[i] = expected[j] :=
      List.inj_on_of_nodup_map distinct (member i) (member j) key
    exact Fin.ext ((List.Nodup.of_map _ distinct).getElem_inj_iff.1 row)
  have bijective : Function.Bijective pairing :=
    (Fintype.bijective_iff_injective_and_card pairing).2 ⟨injective, by simpa using length⟩
  exact ⟨.ofBijective pairing bijective, agrees⟩

/-- The first row with the key of an expected row is the one that it is paired with. -/
theorem readsIn_of_pairing {expected actual : List Row} (nonempty : ∀ row ∈ expected, row ≠ [])
    (distinct : (expected.map key?).Nodup) (pairing : Fin expected.length ≃ Fin actual.length)
    (agrees : ∀ i : Fin expected.length, Agrees expected[i] actual[pairing i]) :
    ∀ row ∈ expected, row.ReadsIn actual := by
  have member : ∀ i : Fin expected.length, expected[i] ∈ expected := fun _ => List.getElem_mem _
  have keyed : ∀ i : Fin expected.length,
      Row.key? actual[pairing i] = Row.key? expected[i] := fun i =>
    (agrees i).key?_eq (nonempty _ (member i))
  intro row isExpected
  obtain ⟨k, inside, rfl⟩ := List.getElem_of_mem isExpected
  refine readsIn_of_agrees ⟨_, List.getElem_mem _, keyed ⟨k, inside⟩⟩ ?_
  intro other isActual sameKey
  -- whichever row has the key, it is the partner of an expected row with that key
  obtain ⟨j, rfl⟩ : ∃ j : Fin expected.length, actual[pairing j] = other := by
    obtain ⟨l, within, rfl⟩ := List.getElem_of_mem isActual
    obtain ⟨j, paired⟩ := pairing.surjective ⟨l, within⟩
    exact ⟨j, by simp [paired]⟩
  have same : expected[j] = expected[k] :=
    List.inj_on_of_nodup_map distinct (member j) isExpected ((keyed j).symm.trans sameKey)
  rw [← same]
  exact agrees j

/-- If no expected row is empty and all of them begin with texts of their own, the percentage is
full exactly when the expected rows can be paired with the rows of the answer, each with one that
agrees with it. -/
theorem percentage_eq_hundred_iff_pairing {expected actual : List Row}
    (nonempty : ∀ row ∈ expected, row ≠ []) (distinct : (expected.map key?).Nodup) :
    (compare expected actual).percentage = 100 ↔
      ∃ pairing : Fin expected.length ≃ Fin actual.length,
        ∀ i : Fin expected.length, Agrees expected[i] actual[pairing i] := by
  constructor
  · intro full
    have length := length_eq_of_hundred full
    obtain ⟨-, percentage, matching⟩ := compare_full length
    exact exists_pairing length nonempty distinct (matching.1 (percentage.1 full))
  · rintro ⟨pairing, agrees⟩
    have length : expected.length = actual.length := by
      simpa using Fintype.card_congr pairing
    obtain ⟨-, percentage, matching⟩ := compare_full length
    exact percentage.2 (matching.2 (readsIn_of_pairing nonempty distinct pairing agrees))

/-- Rows in another order, written differently and longer than expected, and a row that lacks a
cell. -/
theorem percentage_eq_hundred_iff_pairing_users :
    let expected : List Row := [[.integer 1, .text "Ann"], [.text "b"], [.null, .text "x"]]
    let actual : List Row :=
      [[.text " B ", .integer 7], [.text "null", .text "X"], [.float (.ofInt 1), .text "ANN"]]
    let short : List Row := [[.text "b"], [.null, .text "x"], [.integer 1]]
    (∀ row ∈ expected, row ≠ []) ∧ (expected.map key?).Nodup ∧
    (∃ pairing : Fin expected.length ≃ Fin actual.length,
      ∀ i : Fin expected.length, Agrees expected[i] actual[pairing i]) ∧
    ¬ ∃ pairing : Fin expected.length ≃ Fin short.length,
      ∀ i : Fin expected.length, Agrees expected[i] short[pairing i] := by
  intro expected actual short
  have nonempty : ∀ row ∈ expected, row ≠ [] := by decide
  have distinct : (expected.map key?).Nodup := by decide +kernel
  refine ⟨nonempty, distinct, ?_, ?_⟩
  · exact (percentage_eq_hundred_iff_pairing nonempty distinct).1 (by decide +kernel)
  · rw [← percentage_eq_hundred_iff_pairing nonempty distinct]
    decide +kernel

end FuzzyScore

end SqlGrader
