import Mathlib.Data.List.TakeWhile
import SqlGrader.Unicode.WhiteSpace

/-!
# Trimmed texts

Trimming takes away the white space at both ends and nothing else: nothing is left exactly of white
space (`trim_eq_nil_iff`), and a text that has none at its ends stays as it is (`trim_eq_self`).
-/

set_option autoImplicit false

namespace SqlGrader.Unicode

/-- A text without white space at either end. -/
structure Trimmed (cs : List Char) : Prop where
  front : ∀ c, cs.head? = some c → isWhiteSpace c = false
  back : ∀ c, cs.getLast? = some c → isWhiteSpace c = false

theorem trimmed_iff {cs : List Char} :
    Trimmed cs ↔
      cs.head?.all (!isWhiteSpace ·) = true ∧ cs.getLast?.all (!isWhiteSpace ·) = true := by
  simp only [Option.all_eq_true, Bool.not_eq_true']
  exact ⟨fun ⟨front, back⟩ => ⟨front, back⟩, fun ⟨front, back⟩ => ⟨front, back⟩⟩

-- not by the quantifiers, whose instance for characters may run through all of them
instance (cs : List Char) : Decidable (Trimmed cs) :=
  decidable_of_iff' _ trimmed_iff

theorem head?_trimStart {cs : List Char} {c : Char} (first : (trimStart cs).head? = some c) :
    isWhiteSpace c = false := by
  cases left : trimStart cs with
  | nil =>
    rw [left] at first
    cases first
  | cons d rest =>
    rw [left] at first
    cases first
    exact trimStart_eq_cons left

theorem trimStart_eq_self {cs : List Char}
    (front : ∀ c, cs.head? = some c → isWhiteSpace c = false) : trimStart cs = cs := by
  cases cs with
  | nil => rfl
  | cons c rest => simp [trimStart, front c rfl]

theorem trimStart_eq_nil_iff {cs : List Char} :
    trimStart cs = [] ↔ ∀ c ∈ cs, isWhiteSpace c = true := by
  rw [trimStart, List.dropWhile_eq_nil_iff]

/-- Nothing is left exactly of white space. -/
theorem trim_eq_nil_iff {cs : List Char} : trim cs = [] ↔ ∀ c ∈ cs, isWhiteSpace c = true := by
  rw [trim, List.reverse_eq_nil_iff, trimStart_eq_nil_iff]
  constructor
  · intro blank
    refine trimStart_eq_nil_iff.1 ?_
    cases left : trimStart cs with
    | nil => rfl
    | cons c rest =>
      have white : isWhiteSpace c = true := blank c (by simp [left])
      rw [trimStart_eq_cons left] at white
      cases white
  · intro blank
    rw [trimStart_eq_nil_iff.2 blank]
    exact List.forall_mem_nil _

theorem trimmed_trim (cs : List Char) : Trimmed (trim cs) := by
  unfold trim
  constructor
  · intro c first
    rw [List.head?_reverse] at first
    obtain ⟨dropped, whole⟩ := List.dropWhile_suffix (l := (trimStart cs).reverse) isWhiteSpace
    have last : (trimStart cs).reverse.getLast? = some c := by
      rw [← whole, List.getLast?_append]
      change ((trimStart (trimStart cs).reverse).getLast?).or _ = _
      rw [first]
      rfl
    rw [List.getLast?_reverse] at last
    exact head?_trimStart last
  · intro c last
    rw [List.getLast?_reverse] at last
    exact head?_trimStart last

/-- A text without white space at its ends stays as it is. -/
theorem trim_eq_self {cs : List Char} (trimmed : Trimmed cs) : trim cs = cs := by
  have back : trimStart cs.reverse = cs.reverse :=
    trimStart_eq_self fun c first => trimmed.back c (by rwa [List.head?_reverse] at first)
  rw [trim, trimStart_eq_self trimmed.front, back, List.reverse_reverse]

/-- Of a text that does not begin with white space only the white space at its end is taken away. -/
theorem exists_trim_append {cs : List Char}
    (front : ∀ c, cs.head? = some c → isWhiteSpace c = false) :
    ∃ blank, cs = trim cs ++ blank ∧ ∀ c ∈ blank, isWhiteSpace c = true := by
  have whole := congrArg List.reverse
    (List.takeWhile_append_dropWhile (p := isWhiteSpace) (l := cs.reverse))
  rw [List.reverse_append, List.reverse_reverse] at whole
  refine ⟨(cs.reverse.takeWhile isWhiteSpace).reverse, ?_, fun c member => ?_⟩
  · rw [trim, trimStart_eq_self front]
    exact whole.symm
  · exact List.all_eq_true.1 List.all_takeWhile c (List.mem_reverse.1 member)

end SqlGrader.Unicode
