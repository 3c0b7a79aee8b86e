/-!
# Sets and maps of code points

A property of characters is given by its maximal runs of code points in ascending order, a
change of case by runs that move every code point, or every second one, by one distance.
Main statement: in an ascending set, membership is membership in one of the runs
(`contains_iff_exists_run`).
-/

set_option autoImplicit false

namespace SqlGrader.Unicode

/-- A set of code points, given by runs from a first to a last one. -/
structure CodePointSet where
  runs : List (Nat × Nat)

namespace CodePointSet

/-- The runs stand apart, each before the next. -/
def Ascending : List (Nat × Nat) → Prop
  | [] => True
  | (first, last) :: rest => first ≤ last ∧ (∀ run ∈ rest, last < run.1) ∧ Ascending rest

/-- Looks through the runs, and stops at the first one that begins beyond the code point. -/
def search (n : Nat) : List (Nat × Nat) → Bool
  | [] => false
  | (first, last) :: rest => if n < first then false else if n ≤ last then true else search n rest

def contains (set : CodePointSet) (c : Char) : Bool :=
  search c.toNat set.runs

/-- In ascending runs the search finds exactly the code points of the runs. -/
theorem search_eq_true_iff {n : Nat} {runs : List (Nat × Nat)} (h : Ascending runs) :
    search n runs = true ↔ ∃ run ∈ runs, run.1 ≤ n ∧ n ≤ run.2 := by
  induction runs with
  | nil => simp [search]
  | cons run rest ih =>
    obtain ⟨first, last⟩ := run
    obtain ⟨hle, hnext, hrest⟩ := h
    have ih := ih hrest
    simp only [search, List.mem_cons]
    split
    · rename_i hlt
      constructor
      · intro h
        cases h
      · rintro ⟨run, hrun | hrun, hfirst, hlast⟩
        · subst hrun
          exact absurd hfirst (by simpa using hlt)
        · have := hnext run hrun
          omega
    · split
      · rename_i hge hle'
        exact ⟨fun _ => ⟨(first, last), .inl rfl, by simpa using hge, hle'⟩, fun _ => rfl⟩
      · rename_i hge hgt
        rw [ih]
        constructor
        · rintro ⟨run, hrun, hin⟩
          exact ⟨run, .inr hrun, hin⟩
        · rintro ⟨run, hrun | hrun, hin⟩
          · subst hrun
            exact absurd hin.2 hgt
          · exact ⟨run, hrun, hin⟩

theorem contains_iff_exists_run {set : CodePointSet} (h : Ascending set.runs) {c : Char} :
    set.contains c = true ↔ ∃ run ∈ set.runs, run.1 ≤ c.toNat ∧ c.toNat ≤ run.2 :=
  search_eq_true_iff h

end CodePointSet

/-- A run of code points, `step` apart, that moves as a whole to begin at `target`. -/
structure CaseRun where
  first : Nat
  last : Nat
  step : Nat
  target : Nat

namespace CaseRun

/-- Whether a code point is one of those that the run moves. -/
def moves (run : CaseRun) (n : Nat) : Bool :=
  run.first ≤ n && n ≤ run.last && (n - run.first) % run.step == 0

/-- The character that the first run moving it takes it to; any other stays as it is. -/
def map (runs : List CaseRun) (c : Char) : Char :=
  match runs.find? (moves · c.toNat) with
  | some run => Char.ofNat (c.toNat - run.first + run.target)
  | none => c

end CaseRun

end SqlGrader.Unicode
