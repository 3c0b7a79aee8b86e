import SqlGrader.Proofs.Session.ReplacedRows

/-!
# Seeded tables

What the seed of a test leaves behind. Each target in turn has its rows replaced, so that a table
holds the rows of the last target of its name, and tables that are no target keep theirs. A strict
grader stops in front of the first target that is not there. Main statement: `seed_contents`.
-/

set_option autoImplicit false

namespace SqlGrader

/-- The tables that a test puts rows in, with the rows, in their order. -/
def QueryTest.targets (test : QueryTest) (defaultTable : String) : List (String × List Row) :=
  match test.seed? with
  | none => []
  | some seed => seed.targets defaultTable

/-- What is left of a store when targets are put in place: each table that was there holds the rows
of the last target of its name, other tables hold what they held, and no table is new or gone. -/
structure Seeded (targets : List (String × List Row)) (before after : Store) : Prop where
  tableNames : after.tableNames = before.tableNames
  replaced : ∀ earlier named rows later, targets = earlier ++ (named, rows) :: later →
    (∀ target ∈ later, Store.key target.1 ≠ Store.key named) →
    ∀ table, Store.key table = Store.key named → before.contains table = true →
      ∃ stored, after.rows? table = some stored ∧ Row.AllStoredAs rows stored
  untouched : ∀ table, (∀ target ∈ targets, Store.key target.1 ≠ Store.key table) →
    after.rows? table = before.rows? table

theorem Seeded.nil (store : Store) : Seeded [] store store := by
  refine ⟨rfl, ?_, fun _ _ => rfl⟩
  intro earlier named rows later cut
  simp at cut

/-- One target is put in place, and then the others. -/
theorem Seeded.cons {table : String} {rows stored : List Row} {rest : List (String × List Row)}
    {before middle after : Store} (tableNames : middle.tableNames = before.tableNames)
    (kept : Row.AllStoredAs rows stored)
    (replaced : ∀ other, middle.rows? other =
      if Store.key other = Store.key table then (before.rows? other).map fun _ => stored
      else before.rows? other)
    (others : Seeded rest middle after) : Seeded ((table, rows) :: rest) before after := by
  have there := Store.contains_of_replaced replaced
  refine ⟨others.tableNames.trans tableNames, ?_, ?_⟩
  · intro earlier named lastRows later cut last other same found
    cases earlier with
    | nil =>
      -- the first target is the last one of its name: the others leave its table alone
      obtain ⟨⟨rfl, rfl⟩, rfl⟩ : (table = named ∧ rows = lastRows) ∧ rest = later := by
        simpa using cut
      obtain ⟨held, holds⟩ := Option.isSome_iff_exists.1 found
      refine ⟨stored, ?_, kept⟩
      rw [others.untouched other fun target member => same ▸ last target member, replaced,
        if_pos same, holds, Option.map_some]
    | cons first earlier =>
      obtain ⟨-, cut⟩ := List.cons.inj cut
      exact others.replaced earlier named lastRows later cut last other same
        ((there other).trans found)
  · intro other none?
    rw [others.untouched other fun target member => none? target (List.mem_cons_of_mem _ member),
      replaced, if_neg fun same => none? (table, rows) List.mem_cons_self same.symm]

theorem Seeded.contains {targets : List (String × List Row)} {before after : Store}
    (seeded : Seeded targets before after) (table : String) :
    after.contains table = before.contains table :=
  Store.contains_congr (fun _ => by rw [seeded.tableNames]) table

namespace Grader

theorem seed_eq (g : Grader) (test : QueryTest) (defaultTable : String) :
    g.seed test defaultTable = g.seedTables (test.targets defaultTable) := by
  unfold seed QueryTest.targets
  cases test.seed? <;> rfl

theorem seedTables_cons (g : Grader) (table : String) (rows : List Row)
    (rest : List (String × List Row)) :
    g.seedTables ((table, rows) :: rest) =
      match g.session.runEach (replaceRows table rows) with
      | (.ok (), session) => ({ g with session } : Grader).seedTables rest
      | (.error e, session) => (.error (.seedFailure table e), { g with session }) := rfl

/-- Targets that are put in place without an error leave the rest to the grader behind them. -/
theorem seedTables_append {g : Grader} {earlier : List (String × List Row)}
    (placed : (g.seedTables earlier).1 = .ok ()) (later : List (String × List Row)) :
    g.seedTables (earlier ++ later) = (g.seedTables earlier).2.seedTables later := by
  induction earlier generalizing g with
  | nil => rfl
  | cons target rest ih =>
    obtain ⟨table, rows⟩ := target
    rw [List.cons_append, seedTables_cons]
    rw [seedTables_cons] at placed ⊢
    cases ran : g.session.runEach (replaceRows table rows) with
    | mk result session =>
      rw [ran] at placed
      cases result with
      | error e => cases placed
      | ok => exact ih placed

/-- A strict grader without the table of the next target stops there, and nothing is changed. -/
theorem seedTables_of_missing {g : Grader} {table : String} {rows : List Row}
    (later : List (String × List Row)) (word : IsWord table)
    (strict : g.session.leniency = .strict) (missing : g.session.store.contains table = false) :
    g.seedTables ((table, rows) :: later) =
      (.error (.seedFailure table (.unknownTable (Store.key table))), g) := by
  rw [seedTables_cons, Session.runEach_replaceRows_of_missing rows word strict missing]

/-- Targets are put in place where there are their tables, or nobody minds. -/
theorem seeded_seedTables {g : Grader} {targets : List (String × List Row)}
    (words : ∀ target ∈ targets, IsWord target.1)
    (finite : ∀ target ∈ targets, Row.AllFinite target.2)
    (there : g.session.leniency = .lenient ∨
      ∀ target ∈ targets, g.session.store.contains target.1 = true) :
    (g.seedTables targets).1 = .ok () ∧
      Seeded targets g.session.store (g.seedTables targets).2.session.store := by
  induction targets generalizing g with
  | nil => exact ⟨rfl, .nil _⟩
  | cons target rest ih =>
    obtain ⟨table, rows⟩ := target
    have word := words (table, rows) List.mem_cons_self
    have finiteRows := finite (table, rows) List.mem_cons_self
    have first : g.session.leniency = .lenient ∨ g.session.store.contains table = true :=
      there.imp_right fun all => all (table, rows) List.mem_cons_self
    obtain ⟨stored, kept, replaced⟩ := Store.exists_replaced word finiteRows
    have placed := Session.runEach_replaceRows word finiteRows first
    have tableNames := g.session.tableNames_runEach (keepsTables_replaceRows table rows)
    rw [placed] at tableNames
    rw [seedTables_cons, placed]
    have others := @ih (g.withStore ((replaceRows table rows).foldl Store.after g.session.store))
      (fun target member => words target (List.mem_cons_of_mem _ member))
      (fun target member => finite target (List.mem_cons_of_mem _ member))
      (there.imp_right fun all target member =>
        (Store.contains_of_replaced (replaced g.session.store) target.1).trans
          (all target (List.mem_cons_of_mem _ member)))
    exact ⟨others.1, .cons tableNames kept (replaced g.session.store) others.2⟩

/-- A lenient grader puts all targets in place: each table holds the rows of the last target of its
name, and the others are untouched. So does a strict one that has all the tables. Otherwise the
strict one fails at the first target that is not there, with those in front of it in place and none
of the others. -/
theorem seed_contents (g : Grader) {test : QueryTest} {defaultTable : String}
    (words : ∀ target ∈ test.targets defaultTable, IsWord target.1)
    (finite : ∀ target ∈ test.targets defaultTable, Row.AllFinite target.2) :
    let targets := test.targets defaultTable
    let before := g.session.store
    let result := (g.seed test defaultTable).1
    let after := (g.seed test defaultTable).2.session.store
    (g.session.leniency = .lenient → result = .ok () ∧ Seeded targets before after) ∧
    (g.session.leniency = .strict →
      ((∀ target ∈ targets, before.contains target.1 = true) →
        result = .ok () ∧ Seeded targets before after) ∧
      (∀ earlier table rows later, targets = earlier ++ (table, rows) :: later →
        (∀ target ∈ earlier, before.contains target.1 = true) → before.contains table = false →
        result = .error (.seedFailure table (.unknownTable (Store.key table))) ∧
        Seeded earlier before after)) := by
  intro targets before result after
  have whole := g.seed_eq test defaultTable
  refine ⟨fun lenient => ?_, fun strict => ⟨fun there => ?_, ?_⟩⟩
  · simp only [result, after, whole]
    exact seeded_seedTables words finite (.inl lenient)
  · simp only [result, after, whole]
    exact seeded_seedTables words finite (.inr there)
  · intro earlier table rows later cut there missing
    have inside : ∀ target ∈ earlier, target ∈ targets :=
      fun target member => cut ▸ List.mem_append_left _ member
    have word : IsWord table := words (table, rows) (by simp [targets, cut])
    obtain ⟨placed, seeded⟩ := seeded_seedTables (g := g)
      (fun target member => words target (inside target member))
      (fun target member => finite target (inside target member)) (.inr there)
    -- the failing target meets the grader that the targets in front of it leave behind
    have stillMissing : (g.seedTables earlier).2.session.store.contains table = false := by
      rw [seeded.contains]
      exact missing
    have stillStrict : (g.seedTables earlier).2.session.leniency = .strict := by
      rw [seedTables_snd]
      exact strict
    have stops : g.seed test defaultTable = (.error (.seedFailure table
        (.unknownTable (Store.key table))), (g.seedTables earlier).2) := by
      rw [whole, show test.targets defaultTable = _ from cut, seedTables_append placed,
        seedTables_of_missing later word stillStrict stillMissing]
    refine ⟨?_, ?_⟩
    · simp only [result, stops]
    · simp only [after, stops]
      exact seeded

/-- A table that is a target twice, under names in other letters, one that is left empty, and a last
target that is not there. -/
theorem seed_contents_four_targets :
    let store : Store :=
      ⟨[("users", [[.integer 9]]), ("orders", [[.integer 8]]), ("posts", [[.integer 7]])]⟩
    let last : List Row := [[.text "it's", .float (.ofDecimal true ⟨25, -1⟩), .null]]
    let test : QueryTest := ⟨"rows", "", "SELECT * FROM users", some (.tables
      [("Users", [[.integer 1]]), ("orders", []), ("USERS", last), ("Ghosts", [[.integer 3]])]),
      [], 10⟩
    let lenient : Grader := ⟨⟨store, .empty, .lenient, .row, .builtin⟩, .exact⟩
    let strict : Grader := ⟨⟨store, .empty, .strict, .row, .builtin⟩, .exact⟩
    (lenient.seed test "users").1 = .ok () ∧
    (strict.seed test "users").1 = .error (.seedFailure "Ghosts" (.unknownTable "ghosts")) ∧
    ∃ stored, Row.AllStoredAs last stored ∧
      (strict.seed test "users").2.session.store.rows? "users" = some stored ∧
      (strict.seed test "users").2.session.store.rows? "orders" = some [] ∧
      (strict.seed test "users").2.session.store.rows? "posts" = some [[.integer 7]] := by
  intro store last test lenient strict
  have words : ∀ target ∈ test.targets "users", IsWord target.1 := by decide
  have finite : ∀ target ∈ test.targets "users", Row.AllFinite target.2 := by decide +kernel
  have lowered : Store.key "Ghosts" = "ghosts" := by decide +kernel
  have there : ∀ target ∈ [("Users", [[.integer 1]]), ("orders", []), ("USERS", last)],
      strict.session.store.contains target.1 = true := by decide +kernel
  have missing : strict.session.store.contains "Ghosts" = false := by decide +kernel
  obtain ⟨succeeds, -⟩ := (lenient.seed_contents words finite).1 rfl
  obtain ⟨fails, seeded⟩ := ((strict.seed_contents words finite).2 rfl).2
    [("Users", [[.integer 1]]), ("orders", []), ("USERS", last)] "Ghosts" [[.integer 3]] [] rfl
    there missing
  rw [lowered] at fails
  obtain ⟨stored, users, kept⟩ := seeded.replaced [("Users", [[.integer 1]]), ("orders", [])]
    "USERS" last [] rfl (by simp) "users" (by decide +kernel) (by decide +kernel)
  obtain ⟨none?, orders, nothing⟩ := seeded.replaced [("Users", [[.integer 1]])]
    "orders" [] [("USERS", last)] rfl (by decide +kernel) "orders" rfl (by decide +kernel)
  have posts := seeded.untouched "posts" (by decide +kernel)
  cases nothing
  exact ⟨succeeds, fails, stored, kept, users, orders, posts⟩

end Grader

end SqlGrader
