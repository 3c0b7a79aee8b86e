import SqlGrader.Unicode.LowerCase

/-!
# Lower case taken twice

No character that the mapping to lower case produces is moved by it again. The table is checked
run against run: what one run moves to keeps clear of what any run moves from. Main statement:
taking the lower case of a text twice changes nothing more (`toLower_toLower_text`).
-/

set_option autoImplicit false

namespace SqlGrader.Unicode

namespace CaseRun

/-- The last code point that a run may move to. -/
def lastTarget (run : CaseRun) : Nat :=
  run.target + (run.last - run.first)

/-- What a run moves to keeps clear of what another run moves: it lies before it or behind it, or
between every second code point that the other one moves. -/
def keepsClear (run other : CaseRun) : Bool :=
  run.lastTarget < other.first || other.last < run.target ||
    ((run.step == 2 || run.first == run.last) && other.step == 2 &&
      (run.target + other.first) % 2 == 1)

/-- What a run moves to are code points of characters. -/
def landsOnCharacters (run : CaseRun) : Bool :=
  run.lastTarget < 0xD800 || (0xDFFF < run.target && run.lastTarget < 0x110000)

theorem moves_iff {run : CaseRun} {n : Nat} :
    run.moves n = true ↔ run.first ≤ n ∧ n ≤ run.last ∧ (n - run.first) % run.step = 0 := by
  simp [moves, and_assoc]

theorem moves_target {run other : CaseRun} {n : Nat} (clear : run.keepsClear other = true)
    (moved : run.moves n = true) : other.moves (n - run.first + run.target) = false := by
  have source := moves_iff.1 moved
  apply Bool.eq_false_iff.2
  intro again
  have target := moves_iff.1 again
  have highest : run.lastTarget = run.target + (run.last - run.first) := rfl
  simp only [keepsClear, Bool.or_eq_true, Bool.and_eq_true, decide_eq_true_eq, beq_iff_eq] at clear
  rcases clear with apart | ⟨⟨two | single, otherTwo⟩, odd⟩
  · omega
  · rw [two] at source
    rw [otherTwo] at target
    omega
  · rw [otherTwo] at target
    omega

theorem toNat_target {run : CaseRun} {n : Nat} (lands : run.landsOnCharacters = true)
    (moved : run.moves n = true) :
    (Char.ofNat (n - run.first + run.target)).toNat = n - run.first + run.target := by
  have source := moves_iff.1 moved
  have highest : run.lastTarget = run.target + (run.last - run.first) := rfl
  simp only [landsOnCharacters, Bool.or_eq_true, Bool.and_eq_true, decide_eq_true_eq] at lands
  have valid : (n - run.first + run.target).isValidChar := by
    unfold Nat.isValidChar
    omega
  rw [Char.ofNat, dif_pos valid]
  rfl

end CaseRun

/-- The dotted capital I, which becomes two characters. -/
def dottedRun : CaseRun := ⟨0x130, 0x130, 1, 0x69⟩

/-- Checked run against run, nothing is moved to what is moved again. -/
theorem lowerRuns_keepClear :
    (lowerRuns.all fun run => run.landsOnCharacters &&
      (dottedRun :: lowerRuns).all run.keepsClear) = true := by
  decide +kernel

/-- The characters that are their own lower case in every context. -/
def IsLower (c : Char) : Prop :=
  c ≠ 'Σ' ∧ lowerChar c = [c]

theorem isLower_of_not_moved {c : Char}
    (still : ∀ run ∈ dottedRun :: lowerRuns, run.moves c.toNat = false) : IsLower c := by
  have noRun : lowerRuns.find? (·.moves c.toNat) = none := by
    apply List.find?_eq_none.2
    intro run member
    simp [still run (List.mem_cons_of_mem _ member)]
  have notDotted : c ≠ 'İ' := by
    rintro rfl
    exact absurd (still dottedRun List.mem_cons_self) (by decide)
  refine ⟨?_, ?_⟩
  · rintro rfl
    exact absurd noRun (by decide)
  · rw [lowerChar, if_neg notDotted, CaseRun.map, noRun]

/-- The lower case of a character is in lower case. -/
theorem isLower_of_mem_lowerChar {c d : Char} (notSigma : c ≠ 'Σ') (h : d ∈ lowerChar c) :
    IsLower d := by
  by_cases dotted : c = 'İ'
  · rw [lowerChar, if_pos dotted] at h
    have letters : IsLower 'i' ∧ IsLower '\u0307' := by unfold IsLower; decide +kernel
    simp only [List.mem_cons, List.not_mem_nil, or_false] at h
    cases h with
    | inl same => rw [same]; exact letters.1
    | inr same => rw [same]; exact letters.2
  · have single : lowerChar c = [CaseRun.map lowerRuns c] := if_neg dotted
    cases found : lowerRuns.find? (·.moves c.toNat) with
    | none =>
      have same : CaseRun.map lowerRuns c = c := by rw [CaseRun.map, found]
      rw [same] at single
      rw [single, List.mem_singleton] at h
      subst h
      exact ⟨notSigma, single⟩
    | some run =>
      have moved : run.moves c.toNat = true := by simpa using List.find?_some found
      have checked := List.all_eq_true.1 lowerRuns_keepClear run (List.mem_of_find?_eq_some found)
      obtain ⟨lands, clear⟩ := Bool.and_eq_true_iff.1 checked
      have target : d = Char.ofNat (c.toNat - run.first + run.target) := by
        rw [single, CaseRun.map, found] at h
        exact List.mem_singleton.1 h
      apply isLower_of_not_moved
      intro other member
      rw [target, CaseRun.toNat_target lands moved]
      exact CaseRun.moves_target (List.all_eq_true.1 clear other member) moved

/-- Whatever stands around it, what is put in lower case is in lower case. -/
theorem isLower_of_mem_lowerFrom {before cs : List Char} {d : Char} (h : d ∈ lowerFrom before cs) :
    IsLower d := by
  induction cs generalizing before with
  | nil => cases h
  | cons c rest ih =>
    rw [lowerFrom, List.mem_append] at h
    cases h with
    | inr later => exact ih later
    | inl here =>
      split at here
      · have sigmas : IsLower 'ς' ∧ IsLower 'σ' := by unfold IsLower; decide +kernel
        split at here
        · rw [List.mem_singleton.1 here]
          exact sigmas.1
        · rw [List.mem_singleton.1 here]
          exact sigmas.2
      · rename_i notSigma
        exact isLower_of_mem_lowerChar notSigma here

theorem lowerFrom_of_isLower {cs : List Char} (before : List Char) (lower : ∀ c ∈ cs, IsLower c) :
    lowerFrom before cs = cs := by
  induction cs generalizing before with
  | nil => rfl
  | cons c rest ih =>
    obtain ⟨notSigma, same⟩ := lower c List.mem_cons_self
    have later := ih (c :: before) fun d member => lower d (List.mem_cons_of_mem c member)
    rw [lowerFrom, if_neg notSigma, same, later]
    rfl

/-- A text in lower case is its own lower case. -/
theorem toLower_toLower_text (text : String) : toLower (toLower text) = toLower text := by
  have again : lowerFrom [] (lowerFrom [] text.toList) = lowerFrom [] text.toList :=
    lowerFrom_of_isLower [] fun _ => isLower_of_mem_lowerFrom
  rw [toLower, toLower, String.toList_ofList, again]

end SqlGrader.Unicode
