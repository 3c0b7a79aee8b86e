import SqlGrader.Proofs.Plan.Answers
import SqlGrader.Proofs.Session.History

/-!
# Tables that queries read

The answer to a query depends on the rows of one table only, the one that the query names. Main
statements: `evaluate_congr` for plans, `exec_congr` for texts.
-/

set_option autoImplicit false

namespace SqlGrader

namespace Plan

theorem table?_project (query : Select) (plan : Plan) :
    (project query plan).table? = plan.table? := by
  unfold project
  split <;> rfl

/-- A plan is made over the table that its query names. -/
theorem table?_of_ofSelect {leniency : Leniency} {query : Select} {plan : Plan}
    (h : ofSelect leniency query = .ok plan) : plan.table? = query.table?.map Store.key := by
  cases isMadeFor_of_ofSelect h with
  | empty noTable => rw [noTable, table?, Option.map_none]
  | all source => rw [source, table?_project, table?, Option.map_some]
  | restricted source => rw [source, table?_project, table?, table?, Option.map_some]

end Plan

namespace Database

def withStore (db : Database) (store : Store) : Database :=
  { db with store }

variable {db : Database} {other : Store} {plan : Plan}

theorem selectedRows_congr
    (same : ∀ table, plan.table? = some table → other.rows table = db.store.rows table) :
    (db.withStore other).selectedRows plan = db.selectedRows plan := by
  induction plan with
  | scan table => exact congrArg Except.ok (same table rfl)
  | filter input predicate ih =>
    rw [selectedRows, ih same, selectedRows]
    rfl
  | count input ih => exact ih same
  | groupCount input column ih => exact ih same
  | empty => rfl

/-- Stores with the same rows in the table of a plan give it the same answer. -/
theorem evaluate_congr
    (same : ∀ table, plan.table? = some table → other.rows table = db.store.rows table) :
    (db.withStore other).evaluate plan = db.evaluate plan := by
  have selected := selectedRows_congr same
  cases plan with
  | scan table =>
    rw [evaluate, evaluate, selected]
    rfl
  | filter input predicate =>
    rw [evaluate, evaluate, selected]
    rfl
  | count input =>
    have counted : (db.withStore other).selectedRows input = db.selectedRows input := selected
    rw [evaluate, evaluate, counted]
  | groupCount input column =>
    have grouped : (db.withStore other).selectedRows input = db.selectedRows input := selected
    rw [evaluate, evaluate, grouped]
    rfl
  | empty => rfl

end Database

/-- The text is no query, or a query without a table, or it reads one of the tables named. -/
def ReadsAmong (tables : List String) (sql : String) : Prop :=
  ∀ query table, Statement.parse sql = .ok (.select query) → query.table? = some table →
    ∃ named ∈ tables, Store.key table = Store.key named

namespace Session

def withStore (s : Session) (store : Store) : Session :=
  { s with store }

/-- Sessions that hold the same rows in the table of a query give it the same answer. -/
theorem answer_congr {s : Session} {other : Store} {query : Select}
    (same : ∀ table, query.table? = some table → other.rows? table = s.store.rows? table) :
    (s.withStore other).answer query = s.answer query := by
  unfold answer
  rw [withStore]
  cases planned : Plan.ofSelect s.leniency query with
  | error e => rfl
  | ok plan =>
    refine @Database.evaluate_congr s.database other plan fun key read => ?_
    rw [Plan.table?_of_ofSelect planned] at read
    obtain ⟨table, source, rfl⟩ := Option.map_eq_some_iff.1 read
    have rows : other.rows table = s.store.rows table := by
      rw [Store.rows, Store.rows, same table source]
    rw [Store.rows_key, Store.rows_key]
    exact rows

/-- Sessions that hold the same rows in the tables that a text may read give it the same answer. -/
theorem exec_congr {s : Session} {other : Store} {tables : List String} {sql : String}
    (reads : ReadsAmong tables sql)
    (same : ∀ named ∈ tables, other.rows? named = s.store.rows? named) :
    (s.withStore other).exec sql = s.exec sql := by
  unfold exec
  split
  · rename_i query parsed
    refine congrArg (Except.map some) (answer_congr fun table source => ?_)
    obtain ⟨named, member, about⟩ := reads query table parsed source
    rw [Store.rows?, Store.rows?, about]
    exact same named member
  · rfl
  · rfl

end Session

end SqlGrader
