import SqlGrader.Proofs.Session.TableNames

/-!
# Creation on a condition

`CREATE TABLE IF NOT EXISTS` is read like `CREATE TABLE`: the condition is taken off the tokens and
is no part of the statement. A table that is there is therefore replaced by an empty one, whatever
text follows its name, and stays as it is only if it was empty. Main statement:
`run_conditionalCreation`.
-/

set_option autoImplicit false

namespace SqlGrader

open SqlGrader.Lexer SqlGrader.Parser

/-! ## Texts -/

/-- A text that creates a table on the condition that there is none of its name, in any spelling and
with any tokens behind the name. -/
def IsConditionalCreation (table sql : String) : Prop :=
  ∃ following, LexesTo sql.toList (.keyword .CREATE :: .keyword .TABLE :: .keyword .IF ::
    .keyword .NOT :: .keyword .EXISTS :: wordKind table.toList :: following)

/-- The plain spelling of the statement, with a text behind the name. -/
def conditionalCreation (table following : String) : String :=
  "CREATE TABLE IF NOT EXISTS " ++ table ++ following

/-- Whatever text follows the name, if only the name ends where it begins and the whole lexes. -/
theorem isConditionalCreation_of_tokenize {table following : String} (word : IsWord table)
    (apart : ∀ c, following.toList.head? = some c → continuesWord c = false)
    (lexes : ∃ tokens, tokenize (conditionalCreation table following) = .ok tokens) :
    IsConditionalCreation table (conditionalCreation table following) := by
  obtain ⟨tokens, lexes⟩ := lexes
  obtain ⟨spans, whole, lexed, -⟩ := tokenize_eq_ok_iff.1 lexes
  obtain ⟨front, text, lexedFront, kinds⟩ : LexesTo "CREATE TABLE IF NOT EXISTS".toList
      [.keyword .CREATE, .keyword .TABLE, .keyword .IF, .keyword .NOT, .keyword .EXISTS] :=
    lexesTo_of_toOption (by decide +kernel)
  have spaced : Lexed (some ' ') front := lexedFront.space (by rw [text]; decide +kernel)
  have named : Reads following.toList.head? table.toList (some (wordKind table.toList)) := by
    obtain ⟨c, letters, spelled, first, inside⟩ := word
    rw [spelled]
    exact .word first inside apart
  let name : List Span := [⟨[' '], none⟩, ⟨table.toList, some (wordKind table.toList)⟩]
  have begins : textOf spans = textOf (front ++ name) ++ following.toList := by
    have opening : "CREATE TABLE IF NOT EXISTS ".toList = textOf front ++ [' '] := by
      rw [text]
      decide +kernel
    rw [whole]
    unfold conditionalCreation
    simp only [String.toList_append, opening, textOf_append]
    simp [name]
  have lexedName : Lexed following.toList.head? name :=
    ⟨reads_space, by simpa using named, trivial⟩
  obtain ⟨more, rfl⟩ := exists_append_of_lexed begins lexed
    (lexed_append.2 ⟨by simpa [name] using spaced, lexedName⟩)
  exact ⟨kindsOf more, _, whole, lexed, by simp [name, kinds, kindsOf_cons]⟩

theorem exists_parse_conditionalCreation {table sql : String}
    (creates : IsConditionalCreation table sql) :
    ∃ named, nameOf? (wordKind table.toList) = some named ∧
      Statement.parse sql = .ok (.createTable named) ∧ Store.key named = Store.key table := by
  obtain ⟨following, lexes⟩ := creates
  obtain ⟨named, read, same⟩ := exists_name table.toList
  rw [String.ofList_toList] at same
  exact ⟨named, read, parse_of_command lexes (.createTableIfNotExists read), same⟩

/-! ## Effects -/

namespace Session

/-- Whatever follows the name, the creation of a table on the condition that there is none is the
creation of the table: it is never an error, the table is empty behind it, and nothing else is
changed. All tables are as before exactly if the table was there without rows. -/
theorem run_conditionalCreation (s : Session) {table sql : String} (word : IsWord table)
    (creates : IsConditionalCreation table sql) :
    s.RunsOn sql table (.ok ()) (fun _ => some []) ∧
    s.run sql = s.run (createStatement table) ∧
    ((∀ name, (s.run sql).2.store.rows? name = s.store.rows? name) ↔
      s.store.rows? table = some []) := by
  obtain ⟨named, read, parsed, same⟩ := exists_parse_conditionalCreation creates
  have effect : s.RunsOn sql table (.ok ()) (fun _ => some []) :=
    runsOn_of_ok parsed rfl same rfl
  refine ⟨effect, ?_, fun unchanged => ?_, fun empty name => ?_⟩
  · simp only [run, attempt, parsed, parse_createStatement word read]
  · rw [← unchanged table, effect.changed]
  · by_cases other : Store.key name = Store.key table
    · have found := effect.changed
      rw [← empty] at found
      simpa only [Store.rows?, other] using found
    · exact effect.others name other

/-- A table in other letters and another one, in front of an open column list and of a statement of
its own. -/
theorem run_conditionalCreation_users :
    let s : Session := ⟨⟨[("users", [[.integer 1]]), ("posts", [[.integer 2]])]⟩, .empty, .strict,
      .row, .builtin⟩
    s.RunsOn "CREATE TABLE IF NOT EXISTS Users(id INT" "Users" (.ok ()) (fun _ => some []) ∧
      s.RunsOn "CREATE TABLE IF NOT EXISTS tags; DROP TABLE posts" "tags" (.ok ())
        (fun _ => some []) := by
  intro s
  have lexes : ∀ sql, (tokenize sql).toOption.isSome = true → ∃ tokens, tokenize sql = .ok tokens :=
    fun sql found => (Option.isSome_iff_exists.1 found).imp fun _ => tokenize_of_toOption
  have paren : continuesWord '(' = false := by decide
  have semicolon : continuesWord ';' = false := by decide
  have users : IsConditionalCreation "Users" (conditionalCreation "Users" "(id INT") :=
    isConditionalCreation_of_tokenize (by decide) (by simp [paren]) (lexes _ (by decide +kernel))
  have tags : IsConditionalCreation "tags" (conditionalCreation "tags" "; DROP TABLE posts") :=
    isConditionalCreation_of_tokenize (by decide) (by simp [semicolon])
      (lexes _ (by decide +kernel))
  exact ⟨(s.run_conditionalCreation (show IsWord "Users" by decide) users).1,
    (s.run_conditionalCreation (show IsWord "tags" by decide) tags).1⟩

/-- A table that is there is not kept: its row is gone. -/
theorem not_always_kept_by_conditionalCreation :
    ¬ ∀ (catalog : Catalog) (leniency : Leniency) (scope : MatchScope) (regex : Regex.Library)
      (sqls : List String) (table sql : String), IsWord table → IsConditionalCreation table sql →
      let s := (start catalog leniency scope regex).runs sqls
      s.store.contains table = true →
        ∀ name, (s.run sql).2.store.rows? name = s.store.rows? name := by
  intro always
  have creates : IsConditionalCreation "t" "CREATE TABLE IF NOT EXISTS t (id INT)" :=
    ⟨[.leftParen, .identifier "id", .identifier "INT", .rightParen],
      lexesTo_of_toOption (by decide +kernel)⟩
  have kept := always .empty .strict .row .builtin
    ["CREATE TABLE t (id INT)", "INSERT INTO t VALUES (1)"] "t" _ (by decide) creates
    (by decide +kernel) "t"
  exact absurd kept (by decide +kernel)

end Session

end SqlGrader
