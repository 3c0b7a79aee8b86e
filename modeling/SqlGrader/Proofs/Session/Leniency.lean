import Mathlib.Control.Monad.Basic
import SqlGrader.Regex.Builtin
import SqlGrader.Session

/-!
# What leniency decides

The store after a statement does not depend on leniency, which decides about reports alone.
`Store.after` is the store that a text leaves behind; main statements: every session reaches it
(`run_snd`), a statement that is an error leaves the store as it was (`after_of_error`), and a
script stops in front of its first error (`exists_failing_of_error`). `leniency_reports_only`
puts them together.
-/

set_option autoImplicit false

namespace SqlGrader

namespace Store

/-- The store that a statement leaves behind, whether or not it is an error. -/
def afterStatement (store : Store) (statement : Statement) : Store :=
  (store.execute .strict statement).2

/-- The store that a text leaves behind, whether or not it is a statement. -/
def after (store : Store) (sql : String) : Store :=
  match Statement.parse sql with
  | .ok statement => store.afterStatement statement
  | .error _ => store

theorem changeRows_snd (store : Store) (leniency : Leniency) (table : String)
    (change : List Row → List Row) :
    (store.changeRows leniency table change).2 =
      if store.contains table then store.modify table change else store := by
  unfold changeRows
  split <;> rfl

/-- Leniency decides nothing about the store. -/
theorem execute_snd (store : Store) (leniency : Leniency) (statement : Statement) :
    (store.execute leniency statement).2 = store.afterStatement statement := by
  cases statement with
  | createTable name => rfl
  | dropTable name ifExists => rfl
  | delete table => rw [afterStatement, execute, execute, changeRows_snd, changeRows_snd]
  | insert table rows => rw [afterStatement, execute, execute, changeRows_snd, changeRows_snd]
  | select query => cases leniency <;> rfl

/-- The rows of a table that is not there are not changed. -/
theorem changeRows_of_error {store : Store} {leniency : Leniency} {table : String}
    {change : List Row → List Row} {e : ExecutionError}
    (h : (store.changeRows leniency table change).1 = .error e) :
    (store.changeRows leniency table change).2 = store := by
  unfold changeRows at h ⊢
  split at h
  · cases h
  · rename_i missing
    rw [if_neg missing]

/-- No branch that ends with an error has touched the store. -/
theorem execute_of_error {store : Store} {leniency : Leniency} {statement : Statement}
    {e : ExecutionError} (h : (store.execute leniency statement).1 = .error e) :
    (store.execute leniency statement).2 = store := by
  cases statement with
  | createTable name => cases h
  | dropTable name ifExists => cases h
  | delete table => exact changeRows_of_error h
  | insert table rows => exact changeRows_of_error h
  | select query => cases leniency <;> rfl

end Store

namespace Session

/-- The session under other rules for what cannot be carried out. -/
def under (s : Session) (leniency : Leniency) : Session :=
  { s with leniency }

@[simp] theorem under_store (s : Session) (leniency : Leniency) :
    (s.under leniency).store = s.store := rfl

@[simp] theorem under_leniency (s : Session) (leniency : Leniency) :
    (s.under leniency).leniency = leniency := rfl

theorem attempt_snd (s : Session) (sql : String) : (s.attempt sql).2 = s.store.after sql := by
  unfold attempt Store.after
  cases Statement.parse sql with
  | error e => rfl
  | ok statement => exact s.store.execute_snd s.leniency statement

/-- What ends with an error has not touched the store. -/
theorem attempt_of_error {s : Session} {sql : String} {e : ExecutionError}
    (h : (s.attempt sql).1 = .error e) : s.store.after sql = s.store := by
  rw [← attempt_snd]
  unfold attempt at h ⊢
  split at h
  · rfl
  · exact Store.execute_of_error h

theorem run_fst (s : Session) (sql : String) :
    (s.run sql).1 =
      match s.leniency with
      | .strict => (s.attempt sql).1
      | .lenient => .ok () := by
  unfold run
  rcases s.attempt sql with ⟨⟨⟩ | ⟨⟩, store⟩ <;> cases s.leniency <;> rfl

/-- A step changes nothing but the store, and in the same way under all rules. -/
theorem run_snd (s : Session) (sql : String) :
    (s.run sql).2 = { s with store := s.store.after sql } := by
  rw [← attempt_snd]
  unfold run
  dsimp only
  split <;> rfl

theorem run_lenient {s : Session} (lenient : s.leniency = .lenient) (sql : String) :
    (s.run sql).1 = .ok () := by
  rw [run_fst, lenient]

theorem run_strict {s : Session} (strict : s.leniency = .strict) (sql : String) :
    (s.run sql).1 = (s.attempt sql).1 := by
  rw [run_fst, strict]

/-- A statement that is an error leaves the store as it was. -/
theorem after_of_error {s : Session} {sql : String} {e : ExecutionError}
    (h : (s.run sql).1 = .error e) : s.store.after sql = s.store := by
  cases rules : s.leniency with
  | lenient =>
    rw [run_lenient rules] at h
    cases h
  | strict =>
    rw [run_strict rules] at h
    exact attempt_of_error h

/-! ## Scripts -/

theorem runEach_cons (s : Session) (sql : String) (rest : List String) :
    s.runEach (sql :: rest) =
      match (s.run sql).1 with
      | .ok () => (s.run sql).2.runEach rest
      | .error e => (.error e, (s.run sql).2) := by
  rw [runEach]
  rcases s.run sql with ⟨⟨⟩ | ⟨⟩, next⟩ <;> rfl

/-- Statements without an error among them leave the store that they make one after the other. -/
theorem runEach_snd_of_ok {s : Session} {statements : List String}
    (h : (s.runEach statements).1 = .ok ()) :
    (s.runEach statements).2 = { s with store := statements.foldl Store.after s.store } := by
  induction statements generalizing s with
  | nil => rfl
  | cons sql rest ih =>
    cases step : (s.run sql).1 with
    | ok =>
      rw [runEach_cons, step] at h ⊢
      rw [ih h, run_snd, List.foldl_cons]
    | error e =>
      rw [runEach_cons, step] at h
      cases h

theorem runEach_lenient {s : Session} (lenient : s.leniency = .lenient)
    (statements : List String) : (s.runEach statements).1 = .ok () := by
  induction statements generalizing s with
  | nil => rfl
  | cons sql rest ih =>
    rw [runEach_cons, run_lenient lenient]
    refine ih ?_
    rw [run_snd]
    exact lenient

/-- What is run until an error is a front of the statements without an error, and the first
statement that is one. -/
theorem exists_failing_of_error {s : Session} {statements : List String} {e : ExecutionError}
    (h : (s.runEach statements).1 = .error e) :
    ∃ before failing after, statements = before ++ failing :: after ∧
      (s.runEach before).1 = .ok () ∧ ((s.runEach before).2.run failing).1 = .error e ∧
      (s.runEach statements).2 = (s.runEach before).2 := by
  induction statements generalizing s with
  | nil => cases h
  | cons sql rest ih =>
    rw [runEach_cons] at h
    split at h
    · rename_i step
      obtain ⟨before, failing, after, rfl, passed, failed, same⟩ := ih h
      refine ⟨sql :: before, failing, after, rfl, ?_⟩
      simp only [runEach_cons, step]
      exact ⟨passed, failed, same⟩
    · rename_i cause step
      cases h
      refine ⟨[], sql, rest, rfl, rfl, step, ?_⟩
      rw [runEach_cons, step, run_snd, after_of_error step]
      rfl

theorem runScript_fst (s : Session) (script : String) :
    (s.runScript script).1 =
      (s.runEach (Script.split script)).1.map fun _ => (Script.split script).length := rfl

theorem runScript_snd (s : Session) (script : String) :
    (s.runScript script).2 = (s.runEach (Script.split script)).2 := rfl

theorem runScript_eq_ok_iff {s : Session} {script : String} {count : Nat} :
    (s.runScript script).1 = .ok count ↔
      (s.runEach (Script.split script)).1 = .ok () ∧ count = (Script.split script).length := by
  rw [runScript_fst]
  cases (s.runEach (Script.split script)).1 <;> simp [Except.map, eq_comm]

theorem runScript_eq_error_iff {s : Session} {script : String} {e : ExecutionError} :
    (s.runScript script).1 = .error e ↔ (s.runEach (Script.split script)).1 = .error e := by
  rw [runScript_fst]
  cases (s.runEach (Script.split script)).1 <;> simp [Except.map]

/-- Strict and lenient sessions differ in what they report only. A statement leaves the same store
in both, a lenient session never reports an error, and a strict one reports an error only where
nothing changes. A strict script that fails ends with the store that the statements before the
failing one make, and one that succeeds agrees with the lenient one. -/
theorem leniency_reports_only (s : Session) (sql script : String) :
    ((s.under .strict).run sql).2.store = ((s.under .lenient).run sql).2.store ∧
    ((s.under .lenient).run sql).1 = .ok () ∧
    (∀ e, ((s.under .strict).run sql).1 = .error e →
      ((s.under .strict).run sql).2 = s.under .strict) ∧
    (∀ e, ((s.under .strict).runScript script).1 = .error e →
      ∃ before failing after, Script.split script = before ++ failing :: after ∧
        ((s.under .strict).runEach before).1 = .ok () ∧
        (((s.under .strict).runEach before).2.run failing).1 = .error e ∧
        ((s.under .strict).runScript script).2 = ((s.under .strict).runEach before).2 ∧
        ((s.under .strict).runScript script).2.store =
          ((s.under .lenient).runEach before).2.store) ∧
    (∀ count, ((s.under .strict).runScript script).1 = .ok count →
      ((s.under .lenient).runScript script).1 = .ok count ∧
        ((s.under .lenient).runScript script).2.store =
          ((s.under .strict).runScript script).2.store) := by
  have lenient := runEach_lenient (s := s.under .lenient) rfl
  refine ⟨by simp [run_snd], run_lenient rfl sql, ?_, ?_, ?_⟩
  · intro e failed
    rw [run_snd, after_of_error failed]
  · intro e failed
    obtain ⟨before, failing, after, cut, passed, last, same⟩ :=
      exists_failing_of_error (runScript_eq_error_iff.1 failed)
    refine ⟨before, failing, after, cut, passed, last, same, ?_⟩
    rw [runScript_snd, same, runEach_snd_of_ok passed, runEach_snd_of_ok (lenient before)]
    rfl
  · intro count passed
    obtain ⟨each, rfl⟩ := runScript_eq_ok_iff.1 passed
    refine ⟨runScript_eq_ok_iff.2 ⟨lenient _, rfl⟩, ?_⟩
    rw [runScript_snd, runScript_snd, runEach_snd_of_ok each, runEach_snd_of_ok (lenient _)]
    rfl

/-- A strict script stops at the table that is not there, with the table that it has created before
still there. -/
theorem script_stops_at_unknown_table :
    let s := start .empty .lenient .row .builtin
    let script := "CREATE TABLE t; DELETE FROM u; DROP TABLE t"
    ((s.under .strict).runScript script).1 = .error (.unknownTable "u") ∧
    ∃ before failing after, Script.split script = before ++ failing :: after ∧
      ((s.under .strict).runEach before).1 = .ok () ∧
      (((s.under .strict).runEach before).2.run failing).1 = .error (.unknownTable "u") ∧
      ((s.under .strict).runScript script).2 = ((s.under .strict).runEach before).2 ∧
      ((s.under .strict).runScript script).2.store =
        ((s.under .lenient).runEach before).2.store := by
  intro s script
  have failed : ((s.under .strict).runScript script).1 = .error (.unknownTable "u") := by
    decide +kernel
  exact ⟨failed, (leniency_reports_only s "SELECT 1" script).2.2.2.1 _ failed⟩

end Session

end SqlGrader
