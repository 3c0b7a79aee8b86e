import SqlGrader.Proofs.Plan.Groups
import SqlGrader.Proofs.Plan.TablesRead

/-!
# Queries that share their rows

The query for all columns, the query for their number and the query for their numbers by a column
are planned over the same rows, if they are about the same table and have the same condition: all
three fail with one error, or all three answer from one list of rows (`answers_cases`). Main
statement: `answers_agree`.
-/

set_option autoImplicit false

namespace SqlGrader

/-- A condition leaves a plan as it is, or it is recognised and put on it. -/
theorem Plan.eq_of_restrict {leniency : Leniency} {plan restricted : Plan} {predicate : Predicate}
    (h : restrict leniency plan predicate = .ok restricted) :
    restricted = plan ∨ predicate.IsRecognised ∧ restricted = .filter plan predicate := by
  rcases restrict_cases plan predicate with ⟨recognised, same⟩ | ⟨clause, -, refused, passed⟩
  · rw [same] at h
    cases h
    exact .inr ⟨recognised, rfl⟩
  · cases leniency with
    | strict =>
      rw [refused] at h
      cases h
    | lenient =>
      rw [passed] at h
      cases h
      exact .inl rfl

/-- What queries for rows can share: the table, the condition and the clauses after the last one
that is recognised. -/
structure Selection where
  table : String
  condition? : Option Predicate
  trailing? : Option String

namespace Selection

variable (selection : Selection)

def scan : Select :=
  ⟨[.allColumns], some selection.table, selection.condition?, none, selection.trailing?⟩

def count : Select :=
  ⟨[.countAll], some selection.table, selection.condition?, none, selection.trailing?⟩

def countBy (column : ColumnRef) : Select :=
  ⟨[.countAll], some selection.table, selection.condition?, some column, selection.trailing?⟩

def plan (leniency : Leniency) : Except ExecutionError Plan :=
  match leniency, selection.trailing? with
  | .strict, some clause => .error (.unsupportedClause clause)
  | _, _ =>
    let rows := Plan.scan (Store.key selection.table)
    match selection.condition? with
    | none => .ok rows
    | some predicate => Plan.restrict leniency rows predicate

/-- A query that has the parts of a selection, and no item without effect, is planned over its
rows. -/
theorem ofSelect_eq (leniency : Leniency) {query : Select}
    (ignored : query.ignoredClauses = selection.trailing?.toList)
    (source : query.table? = some selection.table)
    (condition : query.condition? = selection.condition?) :
    Plan.ofSelect leniency query = (selection.plan leniency).map (Plan.project query) := by
  obtain ⟨table, condition?, trailing?⟩ := selection
  simp only [Plan.ofSelect, plan, ignored, source, condition]
  cases leniency <;> cases trailing? <;> cases condition? <;> rfl

theorem ofSelect_scan (leniency : Leniency) :
    Plan.ofSelect leniency selection.scan = selection.plan leniency := by
  have same : Plan.project selection.scan = id := rfl
  rw [selection.ofSelect_eq leniency rfl rfl rfl, same]
  cases selection.plan leniency <;> rfl

theorem ofSelect_count (leniency : Leniency) :
    Plan.ofSelect leniency selection.count = (selection.plan leniency).map .count :=
  selection.ofSelect_eq leniency rfl rfl rfl

theorem ofSelect_countBy (leniency : Leniency) (column : ColumnRef) :
    Plan.ofSelect leniency (selection.countBy column) =
      (selection.plan leniency).map (.groupCount · column) :=
  selection.ofSelect_eq leniency rfl rfl rfl

/-- The rows are all rows of the table, or those that meet a recognised condition. -/
theorem eq_of_plan {leniency : Leniency} {rows : Plan}
    (planned : selection.plan leniency = .ok rows) :
    rows = .scan (Store.key selection.table) ∨ ∃ predicate : Predicate, predicate.IsRecognised ∧
      rows = .filter (.scan (Store.key selection.table)) predicate := by
  unfold plan at planned
  split at planned
  · cases planned
  · dsimp only at planned
    split at planned
    · cases planned
      exact .inl rfl
    · rename_i predicate condition
      rcases Plan.eq_of_restrict planned with rfl | ⟨recognised, rfl⟩
      · exact .inl rfl
      · exact .inr ⟨predicate, recognised, rfl⟩

/-- The plan of the rows is evaluated to them. -/
theorem evaluate_of_plan {leniency : Leniency} {plan : Plan} (db : Database)
    (planned : selection.plan leniency = .ok plan) :
    plan.table? = some (Store.key selection.table) ∧
      db.evaluate plan = (db.selectedRows plan).map fun rows =>
        ⟨db.catalog.columns (Store.key selection.table), rows⟩ := by
  rcases selection.eq_of_plan planned with rfl | ⟨predicate, -, rfl⟩
  · exact ⟨rfl, rfl⟩
  · exact ⟨rfl, rfl⟩

/-- The rows are among those of the table, in their order. -/
theorem sublist_of_plan {leniency : Leniency} {plan : Plan} {rows : List Row} (db : Database)
    (planned : selection.plan leniency = .ok plan) (selected : db.selectedRows plan = .ok rows) :
    rows.Sublist (db.store.rows selection.table) := by
  rcases selection.eq_of_plan planned with rfl | ⟨predicate, -, rfl⟩
  · rw [Database.selectedRows, Store.rows_key] at selected
    rw [← Except.ok.inj selected]
  · rw [Database.selectedRows_filter, Store.rows_key] at selected
    cases made : RowFilter.ofPredicate db.regex db.scope db.catalog (Store.key selection.table)
        predicate with
    | error e =>
      rw [made] at selected
      cases selected
    | ok filter =>
      rw [made] at selected
      rw [← Except.ok.inj selected]
      exact List.filter_sublist

end Selection

namespace Session

/-- The three queries of a selection fail with one error, be it of their plan or of the pattern of
their condition, or they are answered from one list of rows. -/
theorem answers_cases (s : Session) (selection : Selection) :
    (∃ e, s.answer selection.scan = .error e ∧ s.answer selection.count = .error e ∧
      ∀ column, s.answer (selection.countBy column) = .error e) ∨
    ∃ rows, rows.Sublist (s.store.rows selection.table) ∧
      s.answer selection.scan = .ok ⟨s.catalog.columns selection.table, rows⟩ ∧
      s.answer selection.count =
        .ok ⟨[Database.countLabel], [[Database.countCell rows.length]]⟩ ∧
      ∀ column, s.answer (selection.countBy column) =
        .ok (s.database.groupCounts selection.table column rows) := by
  cases planned : selection.plan s.leniency with
  | error e =>
    refine .inl ⟨e, ?_, ?_, fun column => ?_⟩
    · rw [answer, selection.ofSelect_scan, planned]
    · rw [answer, selection.ofSelect_count, planned]
      rfl
    · rw [answer, selection.ofSelect_countBy, planned]
      rfl
  | ok plan =>
    obtain ⟨source, evaluated⟩ := selection.evaluate_of_plan s.database planned
    have labels := s.catalog.columns_key selection.table
    have scanned : s.answer selection.scan = (s.database.selectedRows plan).map fun rows =>
        ⟨s.catalog.columns selection.table, rows⟩ := by
      rw [answer, selection.ofSelect_scan, planned, ← labels]
      exact evaluated
    have counted : s.answer selection.count = (s.database.selectedRows plan).map fun rows =>
        ⟨[Database.countLabel], [[Database.countCell rows.length]]⟩ := by
      rw [answer, selection.ofSelect_count, planned]
      rfl
    have grouped : ∀ column, s.answer (selection.countBy column) =
        (s.database.selectedRows plan).map fun rows =>
          s.database.groupCounts selection.table column rows := by
      intro column
      rw [answer, selection.ofSelect_countBy, planned]
      simp only [Except.map, Database.evaluate, Plan.table?, source, Option.getD_some,
        Database.groupCounts, Catalog.columnIndex?]
      rw [database, labels]
    cases selected : s.database.selectedRows plan with
    | error e =>
      rw [selected] at scanned counted grouped
      exact .inl ⟨e, scanned, counted, grouped⟩
    | ok rows =>
      rw [selected] at scanned counted grouped
      exact .inr ⟨rows, selection.sublist_of_plan s.database planned selected, scanned, counted,
        grouped⟩

end Session

end SqlGrader
