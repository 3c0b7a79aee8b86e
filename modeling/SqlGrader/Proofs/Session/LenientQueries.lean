import Mathlib.Control.Monad.Basic
import SqlGrader.Proofs.Plan.Answers
import SqlGrader.Proofs.Session.Leniency

/-!
# Lenient queries

A lenient session answers whatever a strict one answers, and in the same way. It also answers the
queries that a strict one refuses for an unsupported part, and gives no answer to what is no
statement. All this holds of texts whose pattern, if they have one, is built by the library. Main
statement: `lenient_exec_refines_strict`.
-/

set_option autoImplicit false

namespace SqlGrader.Session

@[simp] theorem under_database (s : Session) (leniency : Leniency) :
    (s.under leniency).database = s.database := rfl

/-- A query whose pattern is built has one answer under all rules; or it has a lenient answer only,
and the strict error names an unsupported part of it. -/
theorem answer_cases {s : Session} {query : Select} (builds : s.database.BuildsPatternOf query) :
    (∃ answer, ∀ leniency, (s.under leniency).answer query = .ok answer) ∨
      ∃ e answer, e.IsUnsupportedPart ∧ (s.under .strict).answer query = .error e ∧
        (s.under .lenient).answer query = .ok answer := by
  rcases Plan.ofSelect_cases query with
    ⟨plan, made, same⟩ | ⟨e, plan, part, made, refused, planned⟩
  · obtain ⟨answer, evaluates⟩ := (s.database.exists_evaluate_iff made).2 builds
    refine .inl ⟨answer, fun leniency => ?_⟩
    simp only [Session.answer, under_leniency, under_database, same leniency, evaluates]
  · obtain ⟨answer, evaluates⟩ := (s.database.exists_evaluate_iff made).2 builds
    refine .inr ⟨e, answer, part, ?_, ?_⟩
    · simp only [Session.answer, under_leniency, refused]
    · simp only [Session.answer, under_leniency, under_database, planned, evaluates]

/-- The library builds the expression for the pattern of a text, if the text is a query with one. -/
def BuildsPatternIn (s : Session) (sql : String) : Prop :=
  ∀ query, Statement.parse sql = .ok (.select query) → s.database.BuildsPatternOf query

/-- What can come of a text that should be a query: the same result under all rules, a lenient
answer in place of an unsupported part, or no lenient answer to what is no statement. -/
theorem exec_cases {s : Session} {sql : String} (builds : s.BuildsPatternIn sql) :
    (∃ answer?, ∀ leniency, (s.under leniency).exec sql = .ok answer?) ∨
      (∃ e answer, e.IsUnsupportedPart ∧ (s.under .strict).exec sql = .error e ∧
        (s.under .lenient).exec sql = .ok (some answer)) ∨
      ∃ e, ¬ e.IsUnsupportedPart ∧ (s.under .strict).exec sql = .error e ∧
        (s.under .lenient).exec sql = .ok none := by
  cases parsed : Statement.parse sql with
  | error cause =>
    refine .inr (.inr ⟨_, ExecutionError.not_isUnsupportedPart_ofParseError cause, ?_, ?_⟩)
    · simp only [exec, parsed, under_leniency]
    · simp only [exec, parsed, under_leniency]
  | ok statement =>
    cases statement with
    | select query =>
      have executed : ∀ leniency, (s.under leniency).exec sql =
          ((s.under leniency).answer query).map some := by
        intro leniency
        simp only [exec, parsed]
      rcases answer_cases (builds query parsed) with
        ⟨answer, same⟩ | ⟨e, answer, part, refused, answered⟩
      · refine .inl ⟨some answer, fun leniency => ?_⟩
        rw [executed, same leniency]
        rfl
      · refine .inr (.inl ⟨e, answer, part, ?_, ?_⟩)
        · rw [executed, refused]
          rfl
        · rw [executed, answered]
          rfl
    | _ => exact .inl ⟨none, fun _ => by simp only [exec, parsed]⟩

/-- A lenient session never fails on a query whose pattern is built, and gives at most one answer.
Where a strict session succeeds, the lenient one gives the same result; where the strict one refuses
an unsupported part the lenient one has an answer, and on every other strict error it has none. -/
theorem lenient_exec_refines_strict {s : Session} {sql : String} (builds : s.BuildsPatternIn sql) :
    (∃ answer?, (s.under .lenient).exec sql = .ok answer?) ∧
    (∀ answer?, (s.under .strict).exec sql = .ok answer? →
      (s.under .lenient).exec sql = .ok answer?) ∧
    (∀ e, (s.under .strict).exec sql = .error e →
      (e.IsUnsupportedPart → ∃ answer, (s.under .lenient).exec sql = .ok (some answer)) ∧
      (¬ e.IsUnsupportedPart → (s.under .lenient).exec sql = .ok none)) := by
  rcases exec_cases builds with
    ⟨answer?, same⟩ | ⟨cause, answer, part, refused, answered⟩ | ⟨cause, noPart, refused, passed⟩
  · refine ⟨⟨answer?, same .lenient⟩, fun result h => ?_, fun e h => ?_⟩
    · rw [same .lenient, ← same .strict]
      exact h
    · rw [same .strict] at h
      cases h
  · refine ⟨⟨some answer, answered⟩, fun result h => ?_, fun e h => ?_⟩
    · rw [refused] at h
      cases h
    · rw [refused] at h
      cases h
      exact ⟨fun _ => ⟨answer, answered⟩, fun noPart => absurd part noPart⟩
  · refine ⟨⟨none, passed⟩, fun result h => ?_, fun e h => ?_⟩
    · rw [refused] at h
      cases h
    · rw [refused] at h
      cases h
      exact ⟨fun part => absurd part noPart, fun _ => passed⟩

/-- A query with a pattern that both answer, one with a clause that only a lenient session passes
over, and a text that is no statement. -/
theorem lenient_exec_refines_strict_users :
    let s : Session := ⟨⟨[("users", [[.integer 1, .text "Ann"]])]⟩, .classroom, .strict, .row,
      .builtin⟩
    let like := "SELECT COUNT(*) FROM users WHERE name LIKE 'a%'"
    let counted : ResultSet := ⟨["COUNT(*)"], [[.integer 1]]⟩
    s.BuildsPatternIn like ∧
      ((s.under .strict).exec like = .ok (some counted) ∧
        (s.under .lenient).exec like = .ok (some counted)) ∧
      ((s.under .strict).exec "SELECT * FROM users LIMIT 1" =
          .error (.unsupportedClause "LIMIT 1") ∧
        ∃ answer, (s.under .lenient).exec "SELECT * FROM users LIMIT 1" = .ok (some answer)) ∧
      ((s.under .strict).exec "SELECT * FROM" = .error (.parse .unexpectedEnd) ∧
        (s.under .lenient).exec "SELECT * FROM" = .ok none) := by
  intro s like counted
  have answered : (s.under .strict).exec like = .ok (some counted) := by decide +kernel
  have limited : (s.under .strict).exec "SELECT * FROM users LIMIT 1" =
      .error (.unsupportedClause "LIMIT 1") := by decide +kernel
  have unfinished : (s.under .strict).exec "SELECT * FROM" = .error (.parse .unexpectedEnd) := by
    decide +kernel
  have buildsLike : s.BuildsPatternIn like := by
    have parsed : Statement.parse like = .ok (.select
        ⟨[.countAll], some "users", some (.like ⟨none, "name"⟩ "a%"), none, none⟩) := by
      decide +kernel
    rintro query read table predicate source condition column pattern rfl
    rw [parsed] at read
    cases read
    cases source
    cases condition
    exact Regex.exists_ok_of_isSome (by decide +kernel)
  have buildsLimited : s.BuildsPatternIn "SELECT * FROM users LIMIT 1" := by
    have parsed : Statement.parse "SELECT * FROM users LIMIT 1" = .ok (.select
        ⟨[.allColumns], some "users", none, none, some "LIMIT 1"⟩) := by decide +kernel
    rintro query read table predicate source condition
    rw [parsed] at read
    cases read
    cases condition
  have buildsUnfinished : s.BuildsPatternIn "SELECT * FROM" := by
    have parsed : Statement.parse "SELECT * FROM" = .error .unexpectedEnd := by decide +kernel
    rintro query read
    rw [parsed] at read
    cases read
  refine ⟨buildsLike, ⟨answered, ?_⟩, ⟨limited, ?_⟩, unfinished, ?_⟩
  · exact (lenient_exec_refines_strict buildsLike).2.1 _ answered
  · exact ((lenient_exec_refines_strict buildsLimited).2.2 _ limited).1 ⟨"LIMIT 1", .inl rfl⟩
  · refine ((lenient_exec_refines_strict buildsUnfinished).2.2 _ unfinished).2 ?_
    exact ExecutionError.not_isUnsupportedPart_ofParseError .unexpectedEnd

end SqlGrader.Session
