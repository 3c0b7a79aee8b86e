import SqlGrader.Proofs.Plan.Answers
import SqlGrader.Proofs.Statement.InterpretedQueries

/-!
# Plans and outlines

What a query is planned as hangs on its outline. A lenient plan takes no notice of the clauses that
are left either, nor of the items beyond whether a count is among them; a strict plan is refused
for the first of the texts that are kept. Main statements: `ofSelect_lenient_congr`,
`exists_ofSelect_strict`.
-/

set_option autoImplicit false

namespace SqlGrader

@[simp] theorem Select.hasCount_outline (query : Select) :
    query.outline.hasCount = query.hasCount := by
  have same : ∀ item : SelectItem, (.countAll = item.outline) = (.countAll = item) := by
    intro item
    cases item <;> simp [SelectItem.outline]
  rw [Bool.eq_iff_iff]
  simp only [hasCount, outline, List.contains_iff_mem, List.mem_map]
  constructor
  · rintro ⟨item, member, isCount⟩
    have kept : .countAll = item := same item ▸ isCount.symm
    exact kept ▸ member
  · intro member
    exact ⟨.countAll, member, rfl⟩

theorem Select.ignoredClauses_outline (query : Select) :
    query.outline.ignoredClauses = query.ignoredClauses.map fun _ => "" := by
  obtain ⟨items, table?, condition?, groupBy?, trailing?⟩ := query
  simp only [ignoredClauses, outline, List.filterMap_map, List.map_append, List.map_filterMap]
  congr 2
  · funext item
    cases item <;> rfl
  · cases trailing? <;> rfl

namespace Plan

theorem ofRows_lenient_outline (query : Select) :
    ofRows .lenient query.outline = ofRows .lenient query := by
  have projected : project query.outline = project query := by
    funext plan
    rw [project, project, Select.hasCount_outline]
    rfl
  obtain ⟨items, table?, condition?, groupBy?, trailing?⟩ := query
  cases table? with
  | none => rfl
  | some table =>
    cases condition? with
    | none => exact congrArg Except.ok (congrFun projected _)
    | some predicate => cases predicate <;> exact congrArg Except.ok (congrFun projected _)

/-- Queries with one table, condition and grouping have one lenient plan, if both or neither have a
count. -/
theorem ofSelect_lenient_congr {query other : Select}
    (count : query.outline.hasCount = other.outline.hasCount)
    (table : query.outline.table? = other.outline.table?)
    (condition : query.outline.condition? = other.outline.condition?)
    (group : query.outline.groupBy? = other.outline.groupBy?) :
    ofSelect .lenient query = ofSelect .lenient other := by
  rw [ofSelect_lenient, ofSelect_lenient, ← ofRows_lenient_outline, ← ofRows_lenient_outline other]
  have projected : project query.outline = project other.outline := by
    funext plan
    rw [project, project, count, group]
  rw [ofRows, ofRows, table, condition, projected]

/-- A text that is kept of an item or of the clauses behind the last one is refused. -/
theorem exists_ofSelect_strict {query : Select} (ignored : query.outline.ignoredClauses ≠ []) :
    ∃ clause, ofSelect .strict query = .error (.unsupportedClause clause) := by
  rw [Select.ignoredClauses_outline] at ignored
  rw [ofSelect_strict]
  cases given : query.ignoredClauses with
  | nil => exact absurd (by rw [given]; rfl) ignored
  | cons clause others => exact ⟨clause, rfl⟩

/-- A query of which no part is kept as text has one plan under all rules. -/
theorem exists_ofSelect {query : Select} (interpreted : query.IsInterpreted) :
    ∃ plan, IsMadeFor query plan ∧ ∀ leniency, ofSelect leniency query = .ok plan := by
  have ignored : query.ignoredClauses = [] := by
    simp only [Select.ignoredClauses, interpreted.trailing, Option.toList_none, List.append_nil,
      List.filterMap_eq_nil_iff]
    intro item member
    cases item with
    | expression text => exact absurd member (interpreted.items text)
    | _ => rfl
  have same : ∀ leniency, ofSelect leniency query = ofRows leniency query := by
    intro leniency
    cases leniency with
    | lenient => rfl
    | strict => rw [ofSelect_strict, ignored]
  simp only [same]
  rcases ofRows_cases query with planned | ⟨clause, plan, -, refused, -⟩
  · exact planned
  · unfold ofRows at refused
    split at refused
    · cases refused
    · split at refused
      · cases refused
      · rename_i predicate given
        cases predicate with
        | unsupported text => exact absurd given (interpreted.condition text)
        | _ => cases refused

end Plan

end SqlGrader
