import Mathlib.Algebra.GroupWithZero.Nat
import Mathlib.Data.List.Induction
import SqlGrader.Plan.Evaluation

/-!
# Groups

Values are counted one after the other, each in the first group whose key equals it; a value that no
key equals opens a group. Equality of cells is not transitive, so that a group is not a class of
equal values: what holds of every list of values is said here, and when the counts are those of
equal values in `GroupCounts`. Main statements: the counts are of all values (`sum_groups`), and the
keys are the values that no earlier key equals, in the order in which they first appear
(`firstAppearances_groups`).
-/

set_option autoImplicit false

namespace SqlGrader

/-- A value is one of the keys, or one of them equals it. -/
def Represented (keys : List Cell) (value : Cell) : Prop :=
  ∃ key ∈ keys, key = value ∨ key.equals value = true

/-- The keys are the values that no earlier key equals, in the order in which they first appear. -/
structure FirstAppearances (values keys : List Cell) : Prop where
  /-- No key equals a later one. -/
  apart : keys.Pairwise fun earlier later => earlier.equals later = false
  /-- A key stands among the values where all values before it belong to the keys before it. It has
  not stood there before, unless it is not even equal to itself. -/
  ordered : ∀ earlier key later, keys = earlier ++ key :: later →
    ∃ before after, values = before ++ key :: after ∧
      (∀ value ∈ before, Represented earlier value) ∧ (key ∈ before → key.equals key = false)
  /-- Every value belongs to a key. -/
  complete : ∀ value ∈ values, Represented keys value

namespace FirstAppearances

variable {values keys : List Cell} {value : Cell}

theorem nil : FirstAppearances [] [] where
  apart := .nil
  ordered := by simp
  complete := by simp

/-- A value that a key equals is no new key. -/
theorem known (h : FirstAppearances values keys) (found : ∃ key ∈ keys, key.equals value = true) :
    FirstAppearances (values ++ [value]) keys where
  apart := h.apart
  ordered := by
    intro earlier key later cut
    obtain ⟨before, after, rfl, represented, first⟩ := h.ordered earlier key later cut
    exact ⟨before, after ++ [value], by simp, represented, first⟩
  complete := by
    intro other member
    rcases List.mem_append.1 member with old | new
    · exact h.complete other old
    · obtain rfl := List.mem_singleton.1 new
      obtain ⟨key, isKey, equal⟩ := found
      exact ⟨key, isKey, .inr equal⟩

/-- A value that no key equals is the last key. -/
theorem opened (h : FirstAppearances values keys)
    (unknown : ∀ key ∈ keys, key.equals value = false) :
    FirstAppearances (values ++ [value]) (keys ++ [value]) where
  apart := by
    rw [List.pairwise_append]
    refine ⟨h.apart, List.pairwise_singleton _ _, ?_⟩
    intro key isKey last isLast
    obtain rfl := List.mem_singleton.1 isLast
    exact unknown key isKey
  ordered := by
    intro earlier key later cut
    rcases List.eq_nil_or_concat later with rfl | ⟨others, last, rfl⟩
    · obtain ⟨rfl, same⟩ := List.append_inj' cut rfl
      obtain rfl := List.singleton_inj.1 same
      refine ⟨values, [], rfl, h.complete, fun stood => ?_⟩
      obtain ⟨other, isKey, rfl | equal⟩ := h.complete value stood
      · exact unknown other isKey
      · rw [unknown other isKey] at equal
        cases equal
    · rw [List.concat_eq_append, ← List.cons_append, ← List.append_assoc] at cut
      obtain ⟨rfl, -⟩ := List.append_inj' cut rfl
      obtain ⟨before, after, rfl, represented, first⟩ := h.ordered earlier key others rfl
      exact ⟨before, after ++ [value], by simp, represented, first⟩
  complete := by
    intro other member
    rcases List.mem_append.1 member with old | new
    · obtain ⟨key, isKey, same⟩ := h.complete other old
      exact ⟨key, List.mem_append_left _ isKey, same⟩
    · obtain rfl := List.mem_singleton.1 new
      exact ⟨other, List.mem_append_right _ (List.mem_singleton_self other), .inl rfl⟩

/-- The keys are among the values. -/
theorem mem_values (h : FirstAppearances values keys) {key : Cell} (isKey : key ∈ keys) :
    key ∈ values := by
  obtain ⟨earlier, later, cut⟩ := List.append_of_mem isKey
  obtain ⟨before, after, rfl, -⟩ := h.ordered earlier key later cut
  simp

end FirstAppearances

namespace Database

/-- A value is counted in the first group whose key equals it, or it opens the last group. -/
theorem addToGroups_cases (groups : List (Cell × Nat)) (value : Cell) :
    (∃ earlier key n later, groups = earlier ++ (key, n) :: later ∧
      (∀ group ∈ earlier, group.1.equals value = false) ∧ key.equals value = true ∧
      addToGroups groups value = earlier ++ (key, n + 1) :: later) ∨
    ((∀ group ∈ groups, group.1.equals value = false) ∧
      addToGroups groups value = groups ++ [(value, 1)]) := by
  induction groups with
  | nil => exact .inr ⟨by simp, rfl⟩
  | cons group groups ih =>
    obtain ⟨key, n⟩ := group
    cases equal : key.equals value with
    | true => exact .inl ⟨[], key, n, groups, rfl, by simp, equal, by simp [addToGroups, equal]⟩
    | false =>
      rcases ih with ⟨earlier, found, count, later, rfl, passed, found?, added⟩ | ⟨unknown, added⟩
      · refine .inl ⟨(key, n) :: earlier, found, count, later, rfl, ?_, found?, ?_⟩
        · simpa [equal] using passed
        · simp [addToGroups, equal, added]
      · refine .inr ⟨?_, ?_⟩
        · simpa [equal] using unknown
        · simp [addToGroups, equal, added]

theorem groups_concat (values : List Cell) (value : Cell) :
    groups (values ++ [value]) = addToGroups (groups values) value := by
  simp [groups]

/-- The keys of the groups are the values that no earlier key equals, as they first appear. -/
theorem firstAppearances_groups (values : List Cell) :
    FirstAppearances values ((groups values).map (·.1)) := by
  induction values using List.reverseRecOn with
  | nil => exact .nil
  | append_singleton values value ih =>
    rw [groups_concat]
    rcases addToGroups_cases (groups values) value with
      ⟨earlier, key, n, later, cut, -, equal, added⟩ | ⟨unknown, added⟩
    · have same : (addToGroups (groups values) value).map (·.1) = (groups values).map (·.1) := by
        rw [added, cut]
        simp
      rw [same]
      exact ih.known ⟨key, by simp [cut], equal⟩
    · rw [added, List.map_append]
      refine ih.opened fun key isKey => ?_
      obtain ⟨group, member, rfl⟩ := List.mem_map.1 isKey
      exact unknown group member

end Database

end SqlGrader
