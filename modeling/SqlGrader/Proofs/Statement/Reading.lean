import SqlGrader.Statement.Parser
import SqlGrader.Proofs.Text.LongestFront

/-!
# What the readers take

Each reader of the parser takes a front of the tokens that are left and returns the tokens after
it. Only the kinds of the tokens decide what is taken, so that each reader is described by the
kinds in front of its rest. Main statements: the descriptions of the readers of names, literals
and rows (`name_eq_ok_iff`, `literals_eq_ok_iff`, `tuples_eq_ok_iff`, `columnNames_eq_ok_iff`).
-/

set_option autoImplicit false

namespace SqlGrader.Parser

theorem bind_eq_ok_iff {α β : Type} {step : Except ParseError α} {next : α → Except ParseError β}
    {value : β} : (step >>= next) = .ok value ↔ ∃ x, step = .ok x ∧ next x = .ok value := by
  cases step with
  | error e =>
    constructor
    · intro h
      cases h
    · rintro ⟨x, h, -⟩
      cases h
  | ok x =>
    constructor
    · exact fun h => ⟨x, rfl, h⟩
    · rintro ⟨y, same, h⟩
      cases same
      exact h

def Front (kinds : List TokenKind) (tokens rest : List Token) : Prop :=
  ∃ front, tokens = front ++ rest ∧ front.map (·.kind) = kinds

@[simp] theorem front_nil {tokens rest : List Token} : Front [] tokens rest ↔ tokens = rest := by
  simp [Front]

theorem front_cons {kind : TokenKind} {kinds : List TokenKind} {tokens rest : List Token} :
    Front (kind :: kinds) tokens rest ↔
      ∃ t tail, tokens = t :: tail ∧ t.kind = kind ∧ Front kinds tail rest := by
  constructor
  · rintro ⟨front, rfl, same⟩
    obtain ⟨t, tail, rfl, first, others⟩ := List.map_eq_cons_iff.1 same
    exact ⟨t, tail ++ rest, rfl, first, tail, rfl, others⟩
  · rintro ⟨t, tail, rfl, rfl, front, rfl, rfl⟩
    exact ⟨t :: front, rfl, rfl⟩

theorem front_append {kinds others : List TokenKind} {tokens rest : List Token} :
    Front (kinds ++ others) tokens rest ↔
      ∃ middle, Front kinds tokens middle ∧ Front others middle rest := by
  constructor
  · rintro ⟨front, rfl, same⟩
    obtain ⟨first, second, rfl, rfl, rfl⟩ := List.map_eq_append_iff.1 same
    exact ⟨second ++ rest, ⟨first, by simp, rfl⟩, second, rfl, rfl⟩
  · rintro ⟨middle, ⟨first, rfl, rfl⟩, second, rfl, rfl⟩
    exact ⟨first ++ second, by simp, by simp⟩

theorem Front.trans {kinds others : List TokenKind} {tokens middle rest : List Token}
    (h : Front kinds tokens middle) (later : Front others middle rest) :
    Front (kinds ++ others) tokens rest :=
  front_append.2 ⟨middle, h, later⟩

/-- The tokens of the first kinds come off before the others. -/
theorem Front.cut (kinds : List TokenKind) {others : List TokenKind} {tokens rest : List Token}
    (h : Front (kinds ++ others) tokens rest) :
    ∃ middle, Front kinds tokens middle ∧ Front others middle rest :=
  front_append.1 h

def nextKind? (tokens : List Token) : Option TokenKind :=
  tokens.head?.map (·.kind)

@[simp] theorem not_front_cons_nil {kind : TokenKind} {kinds : List TokenKind} {rest : List Token} :
    ¬ Front (kind :: kinds) [] rest := by
  simp [front_cons]

@[simp] theorem front_cons_cons {kind : TokenKind} {kinds : List TokenKind} {t : Token}
    {tail rest : List Token} :
    Front (kind :: kinds) (t :: tail) rest ↔ t.kind = kind ∧ Front kinds tail rest := by
  rw [front_cons]
  constructor
  · rintro ⟨_, _, h, first, later⟩
    cases h
    exact ⟨first, later⟩
  · exact fun h => ⟨t, tail, rfl, h.1, h.2⟩

/-- Kinds that stand inside a statement: none ends it. -/
def Inside (kinds : List TokenKind) : Prop :=
  ∀ kind ∈ kinds, kind ≠ .semicolon ∧ kind ≠ .eof

@[simp] theorem inside_nil : Inside [] := by
  simp [Inside]

@[simp] theorem inside_cons {kind : TokenKind} {kinds : List TokenKind} :
    Inside (kind :: kinds) ↔ (kind ≠ .semicolon ∧ kind ≠ .eof) ∧ Inside kinds := by
  simp [Inside]

@[simp] theorem inside_append {kinds others : List TokenKind} :
    Inside (kinds ++ others) ↔ Inside kinds ∧ Inside others :=
  List.forall_mem_append

theorem Inside.eof_notMem {kinds : List TokenKind} (h : Inside kinds) : .eof ∉ kinds :=
  fun member => (h _ member).2 rfl

theorem skip?_eq_some_iff {kind : TokenKind} {tokens rest : List Token} :
    skip? kind tokens = some rest ↔ Front [kind] tokens rest := by
  cases tokens <;> simp [skip?]

theorem skip?_eq_none_iff {kind : TokenKind} {tokens : List Token} :
    skip? kind tokens = none ↔ nextKind? tokens ≠ some kind := by
  cases tokens <;> simp [skip?, nextKind?]

theorem expect_eq_ok_iff {kind : TokenKind} {tokens rest : List Token} :
    expect kind tokens = .ok rest ↔ Front [kind] tokens rest := by
  rw [← skip?_eq_some_iff, expect]
  cases skip? kind tokens <;> simp

theorem name_eq_ok_iff {tokens rest : List Token} {named : String} :
    name tokens = .ok (named, rest) ↔
      ∃ kind, nameOf? kind = some named ∧ Front [kind] tokens rest := by
  cases tokens with
  | nil => simp [name]
  | cons t tail =>
    simp only [name, front_cons_cons, front_nil]
    constructor
    · intro h
      split at h
      · rename_i found
        cases h
        exact ⟨t.kind, found, rfl, rfl⟩
      · cases h
    · rintro ⟨kind, found, rfl, rfl⟩
      simp [found]

theorem ne_of_nameOf? {kind : TokenKind} {named : String} (h : nameOf? kind = some named) :
    kind ≠ .semicolon ∧ kind ≠ .eof := by
  constructor <;> rintro rfl <;> cases h

/-! ## Rows of literals -/

inductive SpellsRow : List TokenKind → List Literal → Prop where
  | last {kinds : List TokenKind} {value : Literal} (read : literalOf? kinds = some value) :
      SpellsRow kinds [value]
  | cons {kinds later : List TokenKind} {value : Literal} {values : List Literal}
      (read : literalOf? kinds = some value) (more : SpellsRow later values) :
      SpellsRow (kinds ++ .comma :: later) (value :: values)

inductive SpellsTuple : List TokenKind → List Literal → Prop where
  | empty : SpellsTuple [.leftParen, .rightParen] []
  | row {kinds : List TokenKind} {values : List Literal} (read : SpellsRow kinds values) :
      SpellsTuple (.leftParen :: (kinds ++ [.rightParen])) values

inductive SpellsTuples : List TokenKind → List (List Literal) → Prop where
  | last {kinds : List TokenKind} {row : List Literal} (read : SpellsTuple kinds row) :
      SpellsTuples kinds [row]
  | cons {kinds later : List TokenKind} {row : List Literal} {rows : List (List Literal)}
      (read : SpellsTuple kinds row) (more : SpellsTuples later rows) :
      SpellsTuples (kinds ++ .comma :: later) (row :: rows)

inductive SpellsNames : List TokenKind → Prop where
  | last {kind : TokenKind} {named : String} (read : nameOf? kind = some named) :
      SpellsNames [kind]
  | cons {kind : TokenKind} {named : String} {later : List TokenKind}
      (read : nameOf? kind = some named) (more : SpellsNames later) :
      SpellsNames (kind :: .comma :: later)

/-- The kinds of one literal are neither commas nor closing parentheses nor ends. -/
theorem ne_of_literalOf? {kinds : List TokenKind} {value : Literal}
    (h : literalOf? kinds = some value) :
    kinds ≠ [] ∧ ∀ kind ∈ kinds,
      kind ≠ .comma ∧ kind ≠ .rightParen ∧ kind ≠ .eof ∧ kind ≠ .semicolon := by
  unfold literalOf? at h
  split at h <;> cases h <;> simp

theorem inside_of_literalOf? {kinds : List TokenKind} {value : Literal}
    (h : literalOf? kinds = some value) : Inside kinds := by
  intro kind member
  obtain ⟨-, -, notEnd, notSemicolon⟩ := (ne_of_literalOf? h).2 kind member
  exact ⟨notSemicolon, notEnd⟩

theorem SpellsRow.inside {kinds : List TokenKind} {row : List Literal} (h : SpellsRow kinds row) :
    Inside kinds := by
  induction h with
  | last read => exact inside_of_literalOf? read
  | cons read more ih => simp [inside_of_literalOf? read, ih]

theorem SpellsTuple.inside {kinds : List TokenKind} {row : List Literal}
    (h : SpellsTuple kinds row) : Inside kinds := by
  cases h with
  | empty => simp
  | row read => simp [read.inside]

theorem SpellsTuples.inside {kinds : List TokenKind} {rows : List (List Literal)}
    (h : SpellsTuples kinds rows) : Inside kinds := by
  induction h with
  | last read => exact read.inside
  | cons read more ih => simp [read.inside, ih]

theorem SpellsNames.inside {kinds : List TokenKind} (h : SpellsNames kinds) : Inside kinds := by
  induction h with
  | last read => simp [ne_of_nameOf? read]
  | cons read more ih => simp [ne_of_nameOf? read, ih]

/-- What may stand behind a literal. -/
def EndsLiteral (tokens : List Token) : Prop :=
  ∀ kind, nextKind? tokens = some kind → kind = .comma ∨ kind = .rightParen ∨ kind = .eof

theorem insideLiteral_eq_true_iff {t : Token} :
    insideLiteral t = true ↔ t.kind ≠ .comma ∧ t.kind ≠ .rightParen ∧ t.kind ≠ .eof := by
  simp [insideLiteral, and_assoc]

theorem literal_eq_ok {source : List Char} {tokens : List Token} {value : Literal} :
    literal source tokens = .ok value ↔
      literalOf? ((tokens.takeWhile insideLiteral).map (·.kind)) = some value := by
  unfold literal
  dsimp only
  split
  · rename_i found
    rw [found, Except.ok.injEq, Option.some.injEq]
  · rename_i missing
    rw [missing]
    split <;> simp

/-- A literal is read exactly in front of a comma, a closing parenthesis or the end. -/
theorem literal_eq_ok_iff {source : List Char} {tokens rest : List Token} {value : Literal} :
    (literal source tokens = .ok value ∧ tokens.dropWhile insideLiteral = rest) ↔
      ∃ kinds, literalOf? kinds = some value ∧ Front kinds tokens rest ∧ EndsLiteral rest := by
  rw [literal_eq_ok]
  constructor
  · rintro ⟨read, rfl⟩
    refine ⟨_, read, ⟨_, List.takeWhile_append_dropWhile.symm, rfl⟩, fun kind next => ?_⟩
    obtain ⟨t, head, rfl⟩ := Option.map_eq_some_iff.1 next
    have outside := (Text.longest_front tokens).2 t head
    rw [← Bool.not_eq_true, insideLiteral_eq_true_iff] at outside
    grind
  · rintro ⟨kinds, read, ⟨front, rfl, rfl⟩, ends⟩
    have inside : ∀ t ∈ front, insideLiteral t = true := by
      intro t member
      have different := (ne_of_literalOf? read).2 t.kind (List.mem_map_of_mem member)
      exact insideLiteral_eq_true_iff.2 ⟨different.1, different.2.1, different.2.2.1⟩
    have stop : ∀ t, rest.head? = some t → insideLiteral t = false := by
      intro t head
      have closing := ends t.kind (by simp [nextKind?, head])
      rw [← Bool.not_eq_true, insideLiteral_eq_true_iff]
      grind
    obtain ⟨taken, dropped⟩ := Text.takeWhile_front rest inside stop
    rw [taken, dropped]
    exact ⟨read, rfl⟩

theorem literals_step {source : List Char} {tokens rest : List Token} {row : List Literal} :
    literals source tokens = .ok (row, rest) ↔
      ∃ first, literal source tokens = .ok first ∧
        ((skip? .comma (tokens.dropWhile insideLiteral) = none ∧ row = [first] ∧
            rest = tokens.dropWhile insideLiteral) ∨
          ∃ next others, skip? .comma (tokens.dropWhile insideLiteral) = some next ∧
            literals source next = .ok (others, rest) ∧ row = first :: others) := by
  rw [literals]
  constructor
  · intro h
    split at h
    · cases h
    rename_i first read
    refine ⟨first, read, ?_⟩
    split at h
    · rename_i none?
      cases h
      exact .inl ⟨none?, rfl, rfl⟩
    · rename_i next some?
      split at h
      · cases h
      · rename_i others last more
        cases h
        exact .inr ⟨next, others, some?, more, rfl⟩
  · rintro ⟨first, read, ⟨none?, rfl, rfl⟩ | ⟨next, others, some?, more, rfl⟩⟩
    · simp only [read]
      split
      · rfl
      · rename_i some?
        rw [none?] at some?
        cases some?
    · simp only [read]
      split
      · rename_i none?
        rw [none?] at some?
        cases some?
      · rename_i taken skipped
        obtain rfl : next = taken := by simpa [some?] using skipped
        simp only [more]

/-- Literals are read exactly in front of what is no further comma. -/
theorem literals_eq_ok_iff {source : List Char} {tokens rest : List Token} {row : List Literal} :
    literals source tokens = .ok (row, rest) ↔
      ∃ kinds, SpellsRow kinds row ∧ Front kinds tokens rest ∧ EndsLiteral rest ∧
        nextKind? rest ≠ some .comma := by
  constructor
  · intro h
    induction size : tokens.length using Nat.strongRecOn generalizing tokens row with
    | ind size ih =>
      obtain ⟨first, read, ⟨none?, rfl, rfl⟩ | ⟨next, others, some?, more, rfl⟩⟩ :=
        literals_step.1 h
      · obtain ⟨kinds, spelled, front, ends⟩ := literal_eq_ok_iff.1 ⟨read, rfl⟩
        exact ⟨kinds, .last spelled, front, ends, skip?_eq_none_iff.1 none?⟩
      · obtain ⟨kinds, spelled, front, -⟩ := literal_eq_ok_iff.1 ⟨read, rfl⟩
        have shorter := length_of_skip? some?
        have shorter' := Lexer.length_dropWhile_le insideLiteral tokens
        obtain ⟨later, spellsLater, frontLater, ends, last⟩ := ih _ (by omega) more rfl
        have comma := skip?_eq_some_iff.1 some?
        exact ⟨kinds ++ .comma :: later, .cons spelled spellsLater,
          front.trans (comma.trans frontLater), ends, last⟩
  · rintro ⟨kinds, spelled, front, ends, last⟩
    induction spelled generalizing tokens with
    | last read =>
      obtain ⟨read, after⟩ := literal_eq_ok_iff.2 ⟨_, read, front, ends⟩
      exact literals_step.2 ⟨_, read, .inl ⟨skip?_eq_none_iff.2 (after ▸ last), rfl, after.symm⟩⟩
    | @cons kinds later value values read more ih =>
      obtain ⟨middle, front, tail⟩ := front_append.1 front
      obtain ⟨comma, after, rfl, isComma, tail⟩ := front_cons.1 tail
      have stops : EndsLiteral (comma :: after) := by
        intro kind next
        cases next
        exact .inl isComma
      obtain ⟨read, dropped⟩ := literal_eq_ok_iff.2 ⟨_, read, front, stops⟩
      refine literals_step.2 ⟨_, read, .inr ⟨after, _, ?_, ih tail, rfl⟩⟩
      rw [dropped, skip?_eq_some_iff]
      simp [isComma]

theorem SpellsRow.nextKind?_ne {kinds : List TokenKind} {row : List Literal}
    (h : SpellsRow kinds row) {tokens rest : List Token} (front : Front kinds tokens rest) :
    nextKind? tokens ≠ some .rightParen := by
  have first : ∀ {kinds : List TokenKind} {value : Literal} {rest : List Token},
      literalOf? kinds = some value → Front kinds tokens rest →
        nextKind? tokens ≠ some .rightParen := by
    intro kinds value rest read front
    obtain ⟨nonempty, different⟩ := ne_of_literalOf? read
    obtain ⟨kind, others, rfl⟩ := List.exists_cons_of_ne_nil nonempty
    obtain ⟨t, tail, rfl, rfl, -⟩ := front_cons.1 front
    simpa [nextKind?] using (different t.kind (by simp)).2.1
  cases h with
  | last read => exact first read front
  | cons read more =>
    obtain ⟨middle, front, -⟩ := front_append.1 front
    exact first read front

/-- A row is read exactly from its parentheses. -/
theorem tuple_eq_ok_iff {source : List Char} {tokens rest : List Token} {row : List Literal} :
    tuple source tokens = .ok (row, rest) ↔
      ∃ kinds, SpellsTuple kinds row ∧ Front kinds tokens rest := by
  simp only [tuple, bind_eq_ok_iff, expect_eq_ok_iff]
  constructor
  · rintro ⟨inner, opened, h⟩
    split at h
    · rename_i closed
      cases h
      rw [skip?_eq_some_iff] at closed
      exact ⟨_, .empty, opened.trans closed⟩
    · simp only [bind_eq_ok_iff, expect_eq_ok_iff] at h
      obtain ⟨⟨values, after⟩, read, last, closed, h⟩ := h
      cases h
      obtain ⟨kinds, spelled, front, -⟩ := literals_eq_ok_iff.1 read
      exact ⟨_, .row spelled, opened.trans (front.trans closed)⟩
  · rintro ⟨kinds, spelled, front⟩
    cases spelled with
    | empty =>
      obtain ⟨inner, opened, closed⟩ := front.cut [.leftParen]
      refine ⟨inner, opened, ?_⟩
      rw [skip?_eq_some_iff.2 closed]
      rfl
    | @row kinds values read =>
      obtain ⟨inner, opened, front⟩ := front.cut [.leftParen]
      obtain ⟨after, front, closed⟩ := front_append.1 front
      refine ⟨inner, opened, ?_⟩
      rw [skip?_eq_none_iff.2 (read.nextKind?_ne front)]
      obtain ⟨t, tail, rfl, isClose, -⟩ := front_cons.1 closed
      have ends : EndsLiteral (t :: tail) := by
        intro kind next
        cases next
        exact .inr (.inl isClose)
      have literals : literals source inner = .ok (row, t :: tail) :=
        literals_eq_ok_iff.2 ⟨kinds, read, front, ends, by simp [nextKind?, isClose]⟩
      simp only [bind_eq_ok_iff, expect_eq_ok_iff]
      exact ⟨_, literals, _, closed, rfl⟩

theorem tuples_step {source : List Char} {tokens rest : List Token} {rows : List (List Literal)} :
    tuples source tokens = .ok (rows, rest) ↔
      ∃ first after, tuple source tokens = .ok (first, after) ∧
        ((skip? .comma after = none ∧ rows = [first] ∧ rest = after) ∨
          ∃ next others, skip? .comma after = some next ∧
            tuples source next = .ok (others, rest) ∧ rows = first :: others) := by
  rw [tuples]
  constructor
  · intro h
    split at h
    · cases h
    rename_i first after read
    refine ⟨first, after, read, ?_⟩
    split at h
    · rename_i none?
      cases h
      exact .inl ⟨none?, rfl, rfl⟩
    · rename_i next some?
      split at h
      · cases h
      · rename_i others last more
        cases h
        exact .inr ⟨next, others, some?, more, rfl⟩
  · rintro ⟨first, after, read, continues⟩
    split
    · rename_i failed
      rw [read] at failed
      cases failed
    · rename_i taken left takes
      obtain ⟨rfl, rfl⟩ : first = taken ∧ after = left := by simpa [read] using takes
      rcases continues with ⟨none?, rfl, rfl⟩ | ⟨next, others, some?, more, rfl⟩
      · split
        · rfl
        · rename_i some?
          rw [none?] at some?
          cases some?
      · split
        · rename_i none?
          rw [none?] at some?
          cases some?
        · rename_i skipped
          rw [some?, Option.some.injEq] at skipped
          subst skipped
          simp only [more]

/-- Rows are read exactly in front of what is no further comma. -/
theorem tuples_eq_ok_iff {source : List Char} {tokens rest : List Token}
    {rows : List (List Literal)} :
    tuples source tokens = .ok (rows, rest) ↔
      ∃ kinds, SpellsTuples kinds rows ∧ Front kinds tokens rest ∧
        nextKind? rest ≠ some .comma := by
  constructor
  · intro h
    induction size : tokens.length using Nat.strongRecOn generalizing tokens rows with
    | ind size ih =>
      obtain ⟨first, after, read, ⟨none?, rfl, rfl⟩ | ⟨next, others, some?, more, rfl⟩⟩ :=
        tuples_step.1 h
      · obtain ⟨kinds, spelled, front⟩ := tuple_eq_ok_iff.1 read
        exact ⟨kinds, .last spelled, front, skip?_eq_none_iff.1 none?⟩
      · obtain ⟨kinds, spelled, front⟩ := tuple_eq_ok_iff.1 read
        have shorter := length_of_skip? some?
        have shorter' := length_of_tuple read
        obtain ⟨later, spellsLater, frontLater, last⟩ := ih _ (by omega) more rfl
        have comma := skip?_eq_some_iff.1 some?
        exact ⟨kinds ++ .comma :: later, .cons spelled spellsLater,
          front.trans (comma.trans frontLater), last⟩
  · rintro ⟨kinds, spelled, front, last⟩
    induction spelled generalizing tokens with
    | last read =>
      exact tuples_step.2 ⟨_, _, tuple_eq_ok_iff.2 ⟨_, read, front⟩,
        .inl ⟨skip?_eq_none_iff.2 last, rfl, rfl⟩⟩
    | cons read more ih =>
      obtain ⟨middle, front, tail⟩ := front_append.1 front
      obtain ⟨after, comma, tail⟩ := tail.cut [.comma]
      exact tuples_step.2 ⟨_, _, tuple_eq_ok_iff.2 ⟨_, read, front⟩,
        .inr ⟨after, _, skip?_eq_some_iff.2 comma, ih tail, rfl⟩⟩

/-- Names are read exactly in front of what is no further comma. -/
theorem columnNames_eq_ok_iff {tokens rest : List Token} :
    columnNames tokens = .ok rest ↔
      ∃ kinds, SpellsNames kinds ∧ Front kinds tokens rest ∧ nextKind? rest ≠ some .comma := by
  constructor
  · intro h
    fun_induction columnNames tokens with
    | case1 => cases h
    | case2 => cases h
    | case3 t named found position tail ih =>
      obtain ⟨kinds, spelled, front, last⟩ := ih h
      exact ⟨t.kind :: .comma :: kinds, .cons found spelled, by simpa using front, last⟩
    | case4 t named found tail noComma =>
      cases h
      refine ⟨[t.kind], .last found, by simp, fun next => ?_⟩
      obtain ⟨⟨kind, position⟩, head, rfl⟩ := Option.map_eq_some_iff.1 next
      obtain ⟨later, rfl⟩ := List.head?_eq_some_iff.1 head
      exact noComma position later rfl
  · rintro ⟨kinds, spelled, front, last⟩
    induction spelled generalizing tokens with
    | last read =>
      obtain ⟨t, tail, rfl, rfl, nothing⟩ := front_cons.1 front
      obtain rfl := front_nil.1 nothing
      rw [columnNames.eq_def]
      simp only [read]
      split
      · exact absurd rfl last
      · rfl
    | cons read more ih =>
      obtain ⟨t, tail, rfl, rfl, second⟩ := front_cons.1 front
      obtain ⟨⟨kind, position⟩, tail, rfl, rfl, third⟩ := front_cons.1 second
      simp only [columnNames, read, ih third]

end SqlGrader.Parser
