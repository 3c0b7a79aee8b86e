import SqlGrader.Proofs.Cell.Equality
import SqlGrader.Proofs.Plan.Groups

/-!
# Counts of equal values

A value is counted in the first group whose key equals it (`count_of_group`). The count of a group
falls short of the number of all values that its key equals by those that an earlier key equals too
(`count_add_counted_before`), and a value equals two keys only if it is a number to which two
integers are rounded. Main statement: `counts_right_iff`.
-/

set_option autoImplicit false

namespace SqlGrader.Database

/-- Whether a value is counted under a key: it equals the key and none of the keys before. -/
def countsUnder (earlier : List Cell) (key value : Cell) : Bool :=
  key.equals value && !earlier.any (·.equals value)

@[simp] theorem countsUnder_nil (key value : Cell) :
    countsUnder [] key value = key.equals value := by
  simp [countsUnder]

theorem countsUnder_cons_of_equals {first key value : Cell} (earlier : List Cell)
    (equal : first.equals value = true) : countsUnder (first :: earlier) key value = false := by
  simp [countsUnder, equal]

theorem countsUnder_cons_of_not_equals {first key value : Cell} (earlier : List Cell)
    (different : first.equals value = false) :
    countsUnder (first :: earlier) key value = countsUnder earlier key value := by
  simp [countsUnder, different]

/-- When a value is counted, a group stands where it stood before, one greater if the value is
counted under its key, or it is the one that the value opens. -/
theorem cut_addToGroups {groups earlier later : List (Cell × Nat)} {key value : Cell} {n : Nat}
    (cut : addToGroups groups value = earlier ++ (key, n) :: later) :
    (∃ before m after, groups = before ++ (key, m) :: after ∧
      before.map (·.1) = earlier.map (·.1) ∧
      n = m + if countsUnder (earlier.map (·.1)) key value then 1 else 0) ∨
    (earlier = groups ∧ (key, n) = (value, 1) ∧
      ∀ group ∈ groups, group.1.equals value = false) := by
  induction groups generalizing earlier with
  | nil =>
    cases earlier with
    | nil => exact .inr ⟨rfl, (List.cons.inj cut).1.symm, by simp⟩
    | cons first earlier => simp [addToGroups] at cut
  | cons group groups ih =>
    obtain ⟨first, m⟩ := group
    cases equal : first.equals value with
    | true =>
      rw [addToGroups, if_pos equal] at cut
      cases earlier with
      | nil =>
        cases cut
        exact .inl ⟨[], m, later, rfl, rfl, by simp [equal]⟩
      | cons other earlier =>
        obtain ⟨rfl, rfl⟩ := List.cons.inj cut
        exact .inl ⟨(first, m) :: earlier, n, later, rfl, rfl,
          by simp [countsUnder_cons_of_equals _ equal]⟩
    | false =>
      rw [addToGroups, if_neg (by simp [equal])] at cut
      cases earlier with
      | nil =>
        cases cut
        exact .inl ⟨[], n, groups, rfl, rfl, by simp [equal]⟩
      | cons other earlier =>
        obtain ⟨rfl, behind⟩ := List.cons.inj cut
        rcases ih behind with ⟨before, k, after, rfl, same, counted⟩ | ⟨rfl, opened, unknown⟩
        · refine .inl ⟨(first, m) :: before, k, after, rfl, by simp [same], ?_⟩
          rw [counted, List.map_cons, countsUnder_cons_of_not_equals _ equal]
        · exact .inr ⟨rfl, opened, by simpa [equal] using unknown⟩

/-- The count of a group is the number of values that are counted under its key. -/
theorem count_of_group {values : List Cell}
    (reflexive : ∀ value ∈ values, value.equals value = true) {earlier later : List (Cell × Nat)}
    {key : Cell} {n : Nat} (cut : groups values = earlier ++ (key, n) :: later) :
    n = values.countP (countsUnder (earlier.map (·.1)) key) := by
  induction values using List.reverseRecOn generalizing earlier key n later with
  | nil => simp [groups] at cut
  | append_singleton values value ih =>
    have old : ∀ v ∈ values, v.equals v = true := fun v member =>
      reflexive v (List.mem_append_left _ member)
    rw [groups_concat] at cut
    rw [List.countP_append, List.countP_singleton]
    rcases cut_addToGroups cut with
      ⟨before, m, after, split, same, counted⟩ | ⟨rfl, opened, unknown⟩
    · rw [counted, ih old split, same]
    · obtain ⟨rfl, rfl⟩ := Prod.mk.inj opened
      have none? : values.countP (countsUnder ((groups values).map (·.1)) key) = 0 := by
        rw [List.countP_eq_zero]
        intro v member counted
        obtain ⟨other, isKey, same⟩ := (firstAppearances_groups values).complete v member
        have equal : other.equals v = true := same.elim (fun h => h ▸ old v member) id
        simp only [countsUnder, Bool.and_eq_true, Bool.not_eq_true', List.any_eq_false] at counted
        exact counted.2 other isKey equal
      have first : countsUnder ((groups values).map (·.1)) key key = true := by
        simpa [countsUnder, reflexive key (by simp)] using unknown
      rw [none?, first, if_pos rfl]

/-- The count of a group lacks the values that an earlier key equals too. -/
theorem count_add_counted_before {values : List Cell}
    (reflexive : ∀ value ∈ values, value.equals value = true) {earlier later : List (Cell × Nat)}
    {key : Cell} {n : Nat} (cut : groups values = earlier ++ (key, n) :: later) :
    n + values.countP (fun value => key.equals value && earlier.any (·.1.equals value)) =
      values.countP key.equals := by
  have parted := List.countP_eq_countP_filter_add values key.equals
    fun value => earlier.any (·.1.equals value)
  rw [List.countP_filter, List.countP_filter] at parted
  have counted : countsUnder (earlier.map (·.1)) key =
      fun value => key.equals value && !earlier.any (·.1.equals value) := by
    funext value
    rw [countsUnder, List.any_map]
    rfl
  rw [count_of_group reflexive cut, counted, parted, Nat.add_comm]

/-- Two of the keys are integers that are rounded to one of the values. -/
def RoundsTogether (values keys : List Cell) : Prop :=
  ∃ i j x, i ≠ j ∧ .integer i ∈ keys ∧ .integer j ∈ keys ∧ .float x ∈ values ∧
    (Cell.integer i).equals (.float x) = true ∧ (Cell.integer j).equals (.float x) = true

/-- Integers of up to `2 ^ 53` are not rounded together. -/
theorem not_roundsTogether {values keys : List Cell}
    (small : ∀ i, .integer i ∈ keys → i.toInt.natAbs ≤ 2 ^ 53) : ¬ RoundsTogether values keys := by
  rintro ⟨i, j, x, different, isKey, isKey', -, equal, equal'⟩
  exact different (Cell.eq_of_equals_float (small i isKey) (small j isKey') equal equal')

/-- A group whose key equals a value that is counted before is too small. -/
theorem count_lt_of_counted_before {values : List Cell}
    (reflexive : ∀ value ∈ values, value.equals value = true) {earlier later : List (Cell × Nat)}
    {key value : Cell} {n : Nat} (cut : groups values = earlier ++ (key, n) :: later)
    (member : value ∈ values) (equal : key.equals value = true)
    (before : ∃ group ∈ earlier, group.1.equals value = true) :
    n < values.countP key.equals := by
  have found : earlier.any (·.1.equals value) = true := List.any_eq_true.2 before
  have counted : 0 < values.countP
      (fun value => key.equals value && earlier.any (·.1.equals value)) :=
    List.countP_pos_iff.2 ⟨value, member, by rw [equal, found]; rfl⟩
  have lacking := count_add_counted_before reflexive cut
  omega

/-- Of two groups whose keys equal one value, one is too small. -/
theorem exists_count_lt {values : List Cell}
    (reflexive : ∀ value ∈ values, value.equals value = true) {first second : Cell × Nat}
    {value : Cell} (isFirst : first ∈ groups values) (isSecond : second ∈ groups values)
    (different : first ≠ second) (member : value ∈ values)
    (equal : first.1.equals value = true) (equal' : second.1.equals value = true) :
    ∃ group ∈ groups values, group.2 < values.countP group.1.equals := by
  obtain ⟨earlier, later, cut⟩ := List.append_of_mem isFirst
  have apart : second ∈ earlier ∨ second ∈ later := by
    rw [cut, List.mem_append, List.mem_cons] at isSecond
    rcases isSecond with before | same | behind
    · exact .inl before
    · exact absurd same.symm different
    · exact .inr behind
  rcases apart with before | behind
  · exact ⟨first, isFirst, count_lt_of_counted_before reflexive cut member equal
      ⟨second, before, equal'⟩⟩
  · obtain ⟨between, last, rfl⟩ := List.append_of_mem behind
    have cut' : groups values = (earlier ++ first :: between) ++ second :: last := by
      rw [cut, List.append_assoc, List.cons_append]
    exact ⟨second, isSecond, count_lt_of_counted_before reflexive cut' member equal'
      ⟨first, by simp, equal⟩⟩

/-- Every group counts all values that its key equals, unless two integers among the keys are
rounded to one of the values. -/
theorem counts_right_iff {values : List Cell}
    (reflexive : ∀ value ∈ values, value.equals value = true) :
    (∀ group ∈ groups values, group.2 = values.countP group.1.equals) ↔
      ¬ RoundsTogether values ((groups values).map (·.1)) := by
  constructor
  · rintro right ⟨i, j, x, different, isKey, isKey', member, equal, equal'⟩
    obtain ⟨first, isFirst, key⟩ := List.mem_map.1 isKey
    obtain ⟨second, isSecond, key'⟩ := List.mem_map.1 isKey'
    have apart : first ≠ second := by
      rintro rfl
      exact different (Cell.integer.inj (key.symm.trans key'))
    obtain ⟨group, isGroup, short⟩ := exists_count_lt reflexive isFirst isSecond apart member
      (key ▸ equal) (key' ▸ equal')
    have whole := right group isGroup
    omega
  · rintro apart ⟨key, n⟩ isGroup
    obtain ⟨earlier, later, cut⟩ := List.append_of_mem isGroup
    have lacking := count_add_counted_before reflexive cut
    have nothing : values.countP
        (fun value => key.equals value && earlier.any (·.1.equals value)) = 0 := by
      rw [List.countP_eq_zero]
      intro value member both
      obtain ⟨equal, found⟩ := Bool.and_eq_true_iff.1 both
      obtain ⟨group, before, equal'⟩ := List.any_eq_true.1 found
      have unequal : group.1.equals key = false := by
        have keys := (firstAppearances_groups values).apart
        rw [cut, List.map_append, List.pairwise_append] at keys
        exact keys.2.2 group.1 (List.mem_map_of_mem before) key (by simp)
      obtain ⟨i, j, x, first, second, rfl⟩ := Cell.integers_of_equals_both equal' equal unequal
      refine apart ⟨i, j, x, ?_, ?_, ?_, member, first ▸ equal', second ▸ equal⟩
      · rintro rfl
        rw [first, second, Cell.equals_integer_iff.2 (.inl rfl)] at unequal
        cases unequal
      · exact List.mem_map.2 ⟨group, by rw [cut]; exact List.mem_append_left _ before, first⟩
      · exact List.mem_map.2 ⟨(key, n), isGroup, second⟩
    change n = values.countP key.equals
    omega

end SqlGrader.Database
