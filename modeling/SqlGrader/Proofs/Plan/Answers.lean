import SqlGrader.Plan.Evaluation
import SqlGrader.Proofs.Like.Cuts

/-!
# Plans that have an answer

Two things cannot be evaluated: a condition that is not recognised, and a pattern for which the
library builds no expression. Planning never puts a condition of the first kind into a plan: read
strictly it is an error, read leniently it is left out. Main statements: either a query has one plan
under all rules, or it has a lenient plan only and the strict error names one of its parts
(`ofSelect_cases`); and a plan that is made for a query has an answer over a database exactly when
the pattern of the query is built (`exists_evaluate_iff`).
-/

set_option autoImplicit false

namespace SqlGrader

/-- A condition of one of the forms that can be evaluated. -/
def Predicate.IsRecognised (predicate : Predicate) : Prop :=
  ∀ clause, predicate ≠ .unsupported clause

/-- The errors that name a part of a query that a lenient answer leaves out. -/
def ExecutionError.IsUnsupportedPart (e : ExecutionError) : Prop :=
  ∃ clause, e = .unsupportedClause clause ∨ e = .unsupportedPredicate clause

/-- A text that is no statement is another kind of error. -/
theorem ExecutionError.not_isUnsupportedPart_ofParseError (cause : ParseError) :
    ¬ (ofParseError cause).IsUnsupportedPart := by
  intro part
  obtain ⟨clause, same⟩ := part
  cases cause <;> simp [ofParseError] at same

namespace Plan

/-- A condition restricts a plan in the same way under all rules, or it is unsupported. -/
theorem restrict_cases (plan : Plan) (predicate : Predicate) :
    (predicate.IsRecognised ∧
        ∀ leniency, restrict leniency plan predicate = .ok (.filter plan predicate)) ∨
      ∃ clause, predicate = .unsupported clause ∧
        restrict .strict plan predicate = .error (.unsupportedPredicate clause) ∧
        restrict .lenient plan predicate = .ok plan := by
  cases predicate with
  | unsupported clause => exact .inr ⟨clause, rfl, rfl, rfl⟩
  | _ =>
    refine .inl ⟨?_, fun _ => rfl⟩
    intro clause same
    cases same

/-- The plan of a query whose items and trailing clauses are passed over. -/
def ofRows (leniency : Leniency) (query : Select) : Except ExecutionError Plan :=
  match query.table? with
  | none => .ok .empty
  | some table =>
    match query.condition? with
    | none => .ok (project query (.scan (Store.key table)))
    | some predicate =>
      (restrict leniency (.scan (Store.key table)) predicate).map (project query)

theorem ofSelect_lenient (query : Select) : ofSelect .lenient query = ofRows .lenient query := rfl

theorem ofSelect_strict (query : Select) :
    ofSelect .strict query =
      match query.ignoredClauses with
      | clause :: _ => .error (.unsupportedClause clause)
      | [] => ofRows .strict query := by
  unfold ofSelect
  cases query.ignoredClauses <;> rfl

/-- A query is planned over all rows of its table, or over those that meet its condition. -/
inductive IsMadeFor (query : Select) : Plan → Prop where
  | empty (noTable : query.table? = none) : IsMadeFor query .empty
  | all {table : String} (source : query.table? = some table)
      (passedOver : ∀ predicate, query.condition? = some predicate →
        ∃ clause, predicate = .unsupported clause) :
      IsMadeFor query (project query (.scan (Store.key table)))
  | restricted {table : String} {predicate : Predicate} (source : query.table? = some table)
      (condition : query.condition? = some predicate) (recognised : predicate.IsRecognised) :
      IsMadeFor query (project query (.filter (.scan (Store.key table)) predicate))

theorem ofRows_cases (query : Select) :
    (∃ plan, IsMadeFor query plan ∧ ∀ leniency, ofRows leniency query = .ok plan) ∨
      ∃ clause plan, IsMadeFor query plan ∧
        ofRows .strict query = .error (.unsupportedPredicate clause) ∧
        ofRows .lenient query = .ok plan := by
  cases source : query.table? with
  | none => exact .inl ⟨.empty, .empty source, fun _ => by simp only [ofRows, source]⟩
  | some table =>
    cases condition : query.condition? with
    | none =>
      refine .inl ⟨_, .all source (by simp [condition]), fun _ => ?_⟩
      simp only [ofRows, source, condition]
    | some predicate =>
      rcases restrict_cases (.scan (Store.key table)) predicate with
        ⟨recognised, same⟩ | ⟨clause, unsupported, refused, passed⟩
      · refine .inl ⟨_, .restricted source condition recognised, fun leniency => ?_⟩
        simp only [ofRows, source, condition, same leniency]
        rfl
      · have passedOver : ∀ other, query.condition? = some other →
            ∃ clause, other = .unsupported clause := by
          intro other given
          rw [condition] at given
          exact ⟨clause, Option.some.inj given ▸ unsupported⟩
        refine .inr ⟨clause, _, .all source passedOver, ?_, ?_⟩
        · simp only [ofRows, source, condition, refused]
          rfl
        · simp only [ofRows, source, condition, passed]
          rfl

/-- A query has one plan under all rules; or it has a plan when read leniently only, and the strict
error names the part that the lenient plan leaves out. -/
theorem ofSelect_cases (query : Select) :
    (∃ plan, IsMadeFor query plan ∧ ∀ leniency, ofSelect leniency query = .ok plan) ∨
      ∃ e plan, e.IsUnsupportedPart ∧ IsMadeFor query plan ∧
        ofSelect .strict query = .error e ∧ ofSelect .lenient query = .ok plan := by
  rw [ofSelect_strict, ofSelect_lenient]
  cases ignored : query.ignoredClauses with
  | cons clause others =>
    have part : (ExecutionError.unsupportedClause clause).IsUnsupportedPart := ⟨clause, .inl rfl⟩
    rcases ofRows_cases query with ⟨plan, made, same⟩ | ⟨_, plan, made, -, passed⟩
    · exact .inr ⟨_, plan, part, made, rfl, same .lenient⟩
    · exact .inr ⟨_, plan, part, made, rfl, passed⟩
  | nil =>
    rcases ofRows_cases query with ⟨plan, made, same⟩ | ⟨clause, plan, made, refused, passed⟩
    · refine .inl ⟨plan, made, fun leniency => ?_⟩
      cases leniency with
      | lenient => exact same .lenient
      | strict =>
        rw [ofSelect_strict, ignored]
        exact same .strict
    · exact .inr ⟨_, plan, ⟨clause, .inr rfl⟩, made, refused, passed⟩

theorem isMadeFor_of_ofSelect {leniency : Leniency} {query : Select} {plan : Plan}
    (planned : ofSelect leniency query = .ok plan) : IsMadeFor query plan := by
  rcases ofSelect_cases query with ⟨made, isMade, same⟩ | ⟨e, made, -, isMade, refused, same⟩
  · rw [same] at planned
    exact Except.ok.inj planned ▸ isMade
  · cases leniency with
    | strict =>
      rw [refused] at planned
      cases planned
    | lenient =>
      rw [same] at planned
      exact Except.ok.inj planned ▸ isMade

end Plan

/-! ## Evaluation -/

/-- A result that is changed was there before the change. -/
theorem exists_of_map_eq_ok {ε α β : Type} {f : α → β} {result : Except ε α} {b : β}
    (h : result.map f = .ok b) : ∃ a, result = .ok a ∧ f a = b := by
  cases result with
  | error e => cases h
  | ok a => exact ⟨a, rfl, Except.ok.inj h⟩

theorem exists_map_eq_ok_iff {ε α β : Type} {result : Except ε α} {f : α → β} :
    (∃ b, result.map f = .ok b) ↔ ∃ a, result = .ok a := by
  cases result <;> simp [Except.map]

namespace Database

/-- The library builds the expression for the pattern of a condition on a table, if it has one. -/
def BuildsPattern (db : Database) (table : String) (predicate : Predicate) : Prop :=
  ∀ column pattern, predicate = .like column pattern → ∃ isMatch,
    Like.build db.regex (RowFilter.columnLookedAt? db.scope db.catalog table column).isSome
      pattern = .ok isMatch

/-- The library builds the expression for the pattern of a query, if it has one. -/
def BuildsPatternOf (db : Database) (query : Select) : Prop :=
  ∀ table predicate, query.table? = some table → query.condition? = some predicate →
    db.BuildsPattern (Store.key table) predicate

theorem exists_ofPredicate_iff (db : Database) {predicate : Predicate}
    (recognised : predicate.IsRecognised) (table : String) :
    (∃ filter, RowFilter.ofPredicate db.regex db.scope db.catalog table predicate = .ok filter) ↔
      db.BuildsPattern table predicate := by
  cases predicate with
  | unsupported clause => exact absurd rfl (recognised clause)
  | like column pattern =>
    have filter_iff : (∃ filter, RowFilter.ofPredicate db.regex db.scope db.catalog table
        (.like column pattern) = .ok filter) ↔ ∃ isMatch, Like.build db.regex
          (RowFilter.columnLookedAt? db.scope db.catalog table column).isSome pattern =
            .ok isMatch := by
      rw [RowFilter.ofPredicate_like]
      exact exists_map_eq_ok_iff
    rw [filter_iff, BuildsPattern]
    constructor
    · rintro built _ _ ⟨⟩
      exact built
    · exact fun builds => builds column pattern rfl
  | _ =>
    refine iff_of_true ⟨_, rfl⟩ ?_
    intro column pattern isLike
    cases isLike

theorem selectedRows_filter (db : Database) (table : String) (predicate : Predicate) :
    db.selectedRows (.filter (.scan table) predicate) =
      (RowFilter.ofPredicate db.regex db.scope db.catalog table predicate).map fun filter =>
        (db.store.rows table).filter filter.passes := by
  simp only [selectedRows, Plan.table?, Option.getD_some]
  cases RowFilter.ofPredicate db.regex db.scope db.catalog table predicate <;> rfl

/-- What is made of rows has an answer exactly when the rows are selected. -/
theorem exists_evaluate_project_iff (db : Database) (query : Select) {rows : Plan}
    (evaluated : ∃ f, db.evaluate rows = (db.selectedRows rows).map f) :
    (∃ answer, db.evaluate (Plan.project query rows) = .ok answer) ↔
      ∃ selected, db.selectedRows rows = .ok selected := by
  unfold Plan.project
  split
  · exact exists_map_eq_ok_iff
  · exact exists_map_eq_ok_iff
  · obtain ⟨f, same⟩ := evaluated
    rw [same]
    exact exists_map_eq_ok_iff

/-- A plan that is made for a query has an answer exactly when the pattern of the query is built. -/
theorem exists_evaluate_iff (db : Database) {query : Select} {plan : Plan}
    (made : Plan.IsMadeFor query plan) :
    (∃ answer, db.evaluate plan = .ok answer) ↔ db.BuildsPatternOf query := by
  cases made with
  | empty noTable => exact iff_of_true ⟨_, rfl⟩ (by simp [BuildsPatternOf, noTable])
  | all source passedOver =>
    rw [db.exists_evaluate_project_iff query ⟨_, rfl⟩]
    refine iff_of_true ⟨_, rfl⟩ ?_
    intro table predicate _ condition column pattern isLike
    obtain ⟨clause, unsupported⟩ := passedOver predicate condition
    rw [unsupported] at isLike
    cases isLike
  | @restricted table predicate source condition recognised =>
    rw [db.exists_evaluate_project_iff query ⟨_, rfl⟩, selectedRows_filter,
      exists_map_eq_ok_iff, db.exists_ofPredicate_iff recognised]
    constructor
    · intro builds other given source' condition'
      rw [source] at source'
      rw [condition] at condition'
      exact Option.some.inj source' ▸ Option.some.inj condition' ▸ builds
    · exact fun builds => builds table predicate source condition

end Database

end SqlGrader
