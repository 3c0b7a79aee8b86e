import SqlGrader.Proofs.Plan.GroupCounts
import SqlGrader.Proofs.Plan.SharedRows
import SqlGrader.Proofs.Session.StoredCells

/-!
# Rows counted by a column

Over a store that a run has made, every value that is counted equals itself, so that the counts of
`GROUP BY` are those of equal values up to integers that are rounded together. Main statement:
`countBy_of_runs`.
-/

set_option autoImplicit false

namespace SqlGrader

/-- What is counted of a row is one of its cells or null. -/
theorem Database.groupKey_cases (index? : Option Nat) (row : Row) :
    groupKey index? row = .null ∨ groupKey index? row ∈ row := by
  unfold groupKey
  cases found : index?.bind fun index => row[index]? with
  | none => exact .inl rfl
  | some cell =>
    obtain ⟨index, -, there⟩ := Option.bind_eq_some_iff.1 found
    exact .inr (List.mem_of_getElem? there)

/-- What is counted of rows without not-a-number equals itself. -/
theorem Database.equals_self_of_groupKeys {rows : List Row} (index? : Option Nat)
    (noNan : ∀ row ∈ rows, row.FreeOfNan) :
    ∀ value ∈ rows.map (groupKey index?), value.equals value = true := by
  intro value member
  obtain ⟨row, isRow, rfl⟩ := List.mem_map.1 member
  rcases groupKey_cases index? row with null | isCell
  · rw [null]
    rfl
  · exact Cell.equals_self_iff.2 (noNan row isRow _ isCell)

namespace Session

variable (catalog : Catalog) (leniency : Leniency) (scope : MatchScope) (regex : Regex.Library)
  (sqls : List String)

/-- After any run of a new session the rows that a query selects are counted by a column so that a
count falls short of the number of rows with an equal value by those whose value an earlier key
equals too. All counts are those numbers exactly when no two integers among the keys are rounded to
one value; and so they are when no integer is beyond `2 ^ 53`. -/
theorem countBy_of_runs (selection : Selection) (column : ColumnRef) {labels : List String}
    {rows : List Row}
    (scanned : ((start catalog leniency scope regex).runs sqls).answer selection.scan =
      .ok ⟨labels, rows⟩) :
    let keys := rows.map
      (Database.groupKey (catalog.columnIndex? selection.table column.column))
    ∃ groups : List (Cell × Nat),
      ((start catalog leniency scope regex).runs sqls).answer (selection.countBy column) =
        .ok ⟨[Unicode.toLower column.column, "COUNT(*)"],
          groups.map fun group => [group.1, Database.countCell group.2]⟩ ∧
      (∀ earlier key n later, groups = earlier ++ (key, n) :: later →
        n + keys.countP (fun value => key.equals value && earlier.any (·.1.equals value)) =
          keys.countP key.equals) ∧
      ((∀ group ∈ groups, group.2 = keys.countP group.1.equals) ↔
        ¬ Database.RoundsTogether keys (groups.map (·.1))) ∧
      ((∀ i, .integer i ∈ keys → i.toInt.natAbs ≤ 2 ^ 53) →
        ∀ group ∈ groups, group.2 = keys.countP group.1.equals) := by
  intro keys
  have same : ((start catalog leniency scope regex).runs sqls).catalog = catalog := by
    rw [runs_eq]
    rfl
  rcases ((start catalog leniency scope regex).runs sqls).answers_cases selection with
    ⟨e, refused, -⟩ | ⟨selected, among, answered, -, grouped⟩
  · rw [refused] at scanned
    cases scanned
  · rw [answered] at scanned
    obtain ⟨-, rfl⟩ := ResultSet.mk.inj (Except.ok.inj scanned)
    have noNan : ∀ row ∈ selected, row.FreeOfNan := fun row member =>
      freeOfNan_of_runs catalog leniency scope regex sqls selection.table row
        (among.subset member)
    have reflexive : ∀ value ∈ keys, value.equals value = true :=
      Database.equals_self_of_groupKeys _ noNan
    have exact_iff := Database.counts_right_iff reflexive
    refine ⟨Database.groups keys, ?_, ?_, exact_iff, fun small => ?_⟩
    · rw [grouped column, Database.groupCounts, database, same]
      rfl
    · intro earlier key n later cut
      exact Database.count_add_counted_before reflexive cut
    · apply exact_iff.2
      apply Database.not_roundsTogether
      intro i isKey
      exact small i ((Database.firstAppearances_groups keys).mem_values isKey)

/-- Integers and a number that equals them, and one beyond `2 ^ 53` that nothing equals. -/
theorem countBy_of_runs_number :
    let sqls := ["CREATE TABLE t (id INT)",
      "INSERT INTO t VALUES (2), (2.0), ('2'), (9007199254740993), (2)"]
    let selection : Selection := ⟨"t", none, none⟩
    let s := (start .empty .strict .row .builtin).runs sqls
    let rows : List Row := [[.integer 2], [.float (.ofInt 2)], [.text "2"],
      [.integer 9007199254740993], [.integer 2]]
    s.answer selection.scan = .ok ⟨["col1", "col2", "col3"], rows⟩ ∧
    ∃ groups : List (Cell × Nat), s.answer (selection.countBy ⟨none, "col1"⟩) =
        .ok ⟨["col1", "COUNT(*)"],
          groups.map fun group => [group.1, Database.countCell group.2]⟩ ∧
      ((∀ group ∈ groups, group.2 = rows.flatten.countP group.1.equals) ↔
        ¬ Database.RoundsTogether rows.flatten (groups.map (·.1))) := by
  intro sqls selection s rows
  have scanned : s.answer selection.scan = .ok ⟨["col1", "col2", "col3"], rows⟩ := by
    decide +kernel
  have first : rows.map (Database.groupKey (Catalog.empty.columnIndex? "t" "col1")) =
      rows.flatten := by decide +kernel
  have label : Unicode.toLower "col1" = "col1" := by decide +kernel
  obtain ⟨groups, answered, -, right, -⟩ :=
    countBy_of_runs .empty .strict .row .builtin sqls selection ⟨none, "col1"⟩ scanned
  rw [first] at right
  rw [label] at answered
  exact ⟨scanned, groups, answered, right⟩

/-- Counts are not always those of equal values: the number `2 ^ 53` equals two integers, and is
counted with the first of them only. -/
theorem not_always_counts_equal :
    ¬ ∀ (catalog : Catalog) (leniency : Leniency) (scope : MatchScope) (regex : Regex.Library)
      (sqls : List String) (selection : Selection) (column : ColumnRef) (labels : List String)
      (rows : List Row) (groups : List (Cell × Nat)),
      ((start catalog leniency scope regex).runs sqls).answer selection.scan = .ok ⟨labels, rows⟩ →
      ((start catalog leniency scope regex).runs sqls).answer (selection.countBy column) =
        .ok ⟨[Unicode.toLower column.column, "COUNT(*)"],
          groups.map fun group => [group.1, Database.countCell group.2]⟩ →
      ∀ group ∈ groups, group.2 = (rows.map
        (Database.groupKey (catalog.columnIndex? selection.table column.column))).countP
          group.1.equals := by
  intro always
  have counts := always .empty .strict .row .builtin
    ["CREATE TABLE t (id INT)",
      "INSERT INTO t VALUES (9007199254740992), (9007199254740992.0), (9007199254740993)"]
    ⟨"t", none, none⟩ ⟨none, "col1"⟩ ["col1", "col2", "col3"]
    [[.integer 9007199254740992], [.float (.ofInt 9007199254740992)], [.integer 9007199254740993]]
    [(.integer 9007199254740992, 2), (.integer 9007199254740993, 1)]
    (by decide +kernel) (by decide +kernel) (.integer 9007199254740993, 1) (by simp)
  revert counts
  decide +kernel

end Session

end SqlGrader
