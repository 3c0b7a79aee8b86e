import SqlGrader.Proofs.Statement.CutOutTexts

/-!
# Places in the source

A reader that takes tokens from the front leaves a tail of the tokens of the text, so that whatever
it finds there is a token of the text. Main statement: the texts of a statement and the places in
an error are cut out of the source at its tokens (`parse_faithful`).
-/

set_option autoImplicit false

namespace SqlGrader

/-- The texts that a statement holds of the parts that are not interpreted. -/
inductive Statement.Holds : Statement → String → Prop where
  | item {query : Select} {text : String} (member : .expression text ∈ query.items) :
      Holds (.select query) text
  | condition {query : Select} {text : String}
      (clause : query.condition? = some (.unsupported text)) : Holds (.select query) text
  | trailing {query : Select} {text : String} (behind : query.trailing? = some text) :
      Holds (.select query) text

namespace Parser

/-- Errors that name tokens of the text, by their kinds and their byte offsets. An error of the
lexer is none of them. -/
inductive PointsInto (source : List Char) (tokens : List Token) : ParseError → Prop where
  | unexpectedEnd : PointsInto source tokens .unexpectedEnd
  | unexpectedToken {t : Token} (expected : Expectation) (member : t ∈ tokens)
      (inside : t.kind ≠ .eof) :
      PointsInto source tokens (.unexpectedToken expected t.kind t.position)
  | malformedLiteral {first next : Token} {text : String}
      (cut : CutOut source tokens first next text) :
      PointsInto source tokens (.malformedLiteral text first.position)
  | unknownStatement {first next : Token} {text : String}
      (cut : CutOut source tokens first next text) :
      PointsInto source tokens (.unknownStatement text)

/-- What a reader of the tokens of a text comes to: something with a property, or an error that
points into the text. -/
def Sound {α : Type} (source : List Char) (tokens : List Token) (P : α → Prop) :
    Except ParseError α → Prop
  | .ok x => P x
  | .error e => PointsInto source tokens e

section Readers

variable {α β : Type} {source : List Char} {tokens left : List Token}

theorem Sound.bind {P : α → Prop} {Q : β → Prop} {step : Except ParseError α}
    {next : α → Except ParseError β} (h : Sound source tokens P step)
    (later : ∀ x, P x → Sound source tokens Q (next x)) :
    Sound source tokens Q (step >>= next) := by
  cases step with
  | error e => exact h
  | ok x => exact later x h

theorem Sound.of_ok {P : α → Prop} {result : Except ParseError α} {x : α}
    (h : Sound source tokens P result) (same : result = .ok x) : P x := by
  subst same
  exact h

theorem Sound.of_error {P : α → Prop} {result : Except ParseError α} {e : ParseError}
    (h : Sound source tokens P result) (same : result = .error e) :
    PointsInto source tokens e := by
  subst same
  exact h

theorem pointsInto_unexpected (here : left <:+ tokens) (expected : Expectation) :
    PointsInto source tokens (unexpected expected left) := by
  unfold unexpected
  split
  · exact .unexpectedEnd
  · rename_i t rest
    split
    · exact .unexpectedEnd
    · rename_i inside
      exact .unexpectedToken expected (here.subset List.mem_cons_self) inside

theorem Front.suffix {kinds : List TokenKind} {rest : List Token} (h : Front kinds left rest) :
    rest <:+ left := by
  obtain ⟨front, whole, -⟩ := h
  exact ⟨front, whole.symm⟩

theorem Passes.suffix {rest : List Token} (h : Passes left rest) : rest <:+ left := by
  obtain ⟨kinds, -, front⟩ := h
  exact front.suffix

theorem suffix_of_skip? {kind : TokenKind} {rest : List Token} (h : skip? kind left = some rest) :
    rest <:+ left :=
  (skip?_eq_some_iff.1 h).suffix

theorem sound_expect {kind : TokenKind} (here : left <:+ tokens) :
    Sound source tokens (· <:+ tokens) (expect kind left) := by
  unfold expect
  split
  · rename_i rest skipped
    exact (suffix_of_skip? skipped).trans here
  · exact pointsInto_unexpected here _

theorem sound_name (here : left <:+ tokens) :
    Sound source tokens (fun read => read.2 <:+ tokens) (name left) := by
  unfold name
  split
  · exact .unexpectedEnd
  · split
    · exact (List.suffix_cons _ _).trans here
    · exact pointsInto_unexpected here _

theorem sound_identifier (here : left <:+ tokens) :
    Sound source tokens (fun read => read.2 <:+ tokens) (identifier left) := by
  unfold identifier
  split
  · exact (List.suffix_cons _ _).trans here
  · exact pointsInto_unexpected here _

theorem sound_columnRef (here : left <:+ tokens) :
    Sound source tokens (fun read => read.2 <:+ tokens) (columnRef left) := by
  refine (sound_identifier here).bind fun read behind => ?_
  dsimp only
  split
  · exact behind
  · rename_i rest dot
    exact (sound_identifier ((suffix_of_skip? dot).trans behind)).bind fun _ last => last

theorem sound_columnNames (here : left <:+ tokens) :
    Sound source tokens (· <:+ tokens) (columnNames left) := by
  fun_induction columnNames left with
  | case1 => exact .unexpectedEnd
  | case2 => exact pointsInto_unexpected here _
  | case3 t named found position tail ih =>
    exact ih ((List.suffix_cons _ _).trans ((List.suffix_cons _ _).trans here))
  | case4 => exact (List.suffix_cons _ _).trans here

theorem sound_groupClause (here : left <:+ tokens) :
    Sound source tokens (fun read => read.2 <:+ tokens) (groupClause left) := by
  unfold groupClause
  split
  · exact here
  · rename_i rest group
    exact (sound_expect ((suffix_of_skip? group).trans here)).bind fun _ behind =>
      (sound_columnRef behind).bind fun _ last => last

theorem suffix_of_condition {predicate : Predicate} {rest : List Token}
    (read : condition source left = .ok (predicate, rest)) : rest <:+ left := by
  unfold condition at read
  dsimp only at read
  split at read
  · cases read
  · cases read
    exact List.dropWhile_suffix _

end Readers

/-! ## Statements -/

/-- What the reader of a statement comes to: the texts that the statement holds are cut out. -/
def SoundStatement (source : List Char) (tokens : List Token) :
    Except ParseError (Reading Statement) → Prop :=
  Sound source tokens fun read => read.2 <:+ tokens ∧
    ∀ kept, read.1.Holds kept → ∃ first next, CutOut source tokens first next kept

section Commands

variable {source : List Char} {tokens left : List Token}

theorem sound_createTable (here : left <:+ tokens) :
    SoundStatement source tokens (createTable left) := by
  refine (sound_expect here).bind fun _ create => (sound_expect create).bind fun rest table => ?_
  dsimp only
  split
  · rename_i inner ifNot
    have exists? := (skip_two_eq_some_iff.1 ifNot).suffix.trans table
    exact (sound_expect exists?).bind fun _ behind => (sound_name behind).bind fun _ last =>
      ⟨(List.dropWhile_suffix _).trans last, fun _ holds => by cases holds⟩
  · exact (sound_name table).bind fun _ last =>
      ⟨(List.dropWhile_suffix _).trans last, fun _ holds => by cases holds⟩

theorem sound_dropTable (here : left <:+ tokens) :
    SoundStatement source tokens (dropTable left) := by
  refine (sound_expect here).bind fun _ drop => (sound_expect drop).bind fun rest table => ?_
  dsimp only
  split
  · rename_i inner ifExists
    have behind := (skip_two_eq_some_iff.1 ifExists).suffix.trans table
    exact (sound_name behind).bind fun _ last => ⟨last, fun _ holds => by cases holds⟩
  · exact (sound_name table).bind fun _ last => ⟨last, fun _ holds => by cases holds⟩

theorem sound_delete (here : left <:+ tokens) : SoundStatement source tokens (delete left) :=
  (sound_expect here).bind fun _ delete => (sound_expect delete).bind fun _ from? =>
    (sound_name from?).bind fun _ last => ⟨last, fun _ holds => by cases holds⟩

theorem sound_skipColumns (here : left <:+ tokens) :
    Sound source tokens (· <:+ tokens) (skipColumns left) := by
  unfold skipColumns
  split
  · rename_i rest opened
    exact (sound_columnNames ((suffix_of_skip? opened).trans here)).bind fun _ => sound_expect
  · exact here

end Commands

section Texts

variable {text : String} {tokens left : List Token} (lexes : tokenize text = .ok tokens)

include lexes

theorem sound_literal (here : left <:+ tokens) :
    Sound text.toList tokens (fun _ => True) (literal text.toList left) := by
  cases read : literal text.toList left with
  | ok value => trivial
  | error e =>
    have failed := read
    unfold literal at failed
    dsimp only at failed
    split at failed
    · cases failed
    · split at failed
      · cases failed
        exact pointsInto_unexpected here _
      · cases failed
        obtain ⟨-, place, -⟩ := literal_eq_malformed read
        obtain ⟨first, later, next, -, rfl, -, cut⟩ := cutOut_of_keeps lexes here (.literal read)
        rw [place]
        exact .malformedLiteral cut

theorem sound_literals (here : left <:+ tokens) :
    Sound text.toList tokens (fun read => read.2 <:+ tokens) (literals text.toList left) := by
  have behind : left.dropWhile insideLiteral <:+ tokens := (List.dropWhile_suffix _).trans here
  fun_induction literals text.toList left with
  | case1 left e failed => exact (sound_literal lexes here).of_error failed
  | case2 => exact behind
  | case3 left first _ next comma _ e failed ih =>
    have later := (suffix_of_skip? comma).trans behind
    exact (ih later ((List.dropWhile_suffix _).trans later)).of_error failed
  | case4 left first _ next comma _ others last more ih =>
    have later := (suffix_of_skip? comma).trans behind
    have after := (ih later ((List.dropWhile_suffix _).trans later)).of_ok more
    exact after

theorem sound_tuple (here : left <:+ tokens) :
    Sound text.toList tokens (fun read => read.2 <:+ tokens) (tuple text.toList left) := by
  refine (sound_expect here).bind fun rest opened => ?_
  dsimp only
  split
  · rename_i closed
    exact (suffix_of_skip? closed).trans opened
  · exact (sound_literals lexes opened).bind fun _ row => (sound_expect row).bind fun _ last => last

theorem sound_tuples (here : left <:+ tokens) :
    Sound text.toList tokens (fun read => read.2 <:+ tokens) (tuples text.toList left) := by
  fun_induction tuples text.toList left with
  | case1 left e failed => exact (sound_tuple lexes here).of_error failed
  | case2 left first rest read => exact (sound_tuple lexes here).of_ok read
  | case3 left first rest read next comma _ e failed ih =>
    have behind := (sound_tuple lexes here).of_ok read
    exact (ih ((suffix_of_skip? comma).trans behind)).of_error failed
  | case4 left first rest read next comma _ others last more ih =>
    have behind := (sound_tuple lexes here).of_ok read
    have after := (ih ((suffix_of_skip? comma).trans behind)).of_ok more
    exact after

theorem sound_insert (here : left <:+ tokens) :
    SoundStatement text.toList tokens (insert text.toList left) := by
  rw [insert_eq]
  exact (sound_expect here).bind fun _ insert => (sound_expect insert).bind fun _ into =>
    (sound_name into).bind fun _ table => (sound_skipColumns table).bind fun _ columns =>
      (sound_expect columns).bind fun _ values => (sound_tuples lexes values).bind fun _ last =>
        ⟨last, fun _ holds => by cases holds⟩

/-! ## Queries -/

theorem sound_selectItem (here : left <:+ tokens) :
    Sound text.toList tokens (fun read => read.2 <:+ tokens ∧
      ∀ kept, read.1 = .expression kept → ∃ first next, CutOut text.toList tokens first next kept)
      (selectItem text.toList left) := by
  cases read : selectItem text.toList left with
  | ok item =>
    obtain ⟨item, rest⟩ := item
    refine ⟨(passes_of_selectItem read).suffix.trans here, ?_⟩
    rintro kept rfl
    obtain ⟨first, -, next, -, -, -, cut⟩ := cutOut_of_keeps lexes here (.item read)
    exact ⟨first, next, cut⟩
  | error e =>
    unfold selectItem at read
    dsimp only at read
    split at read
    · cases read
      exact pointsInto_unexpected here _
    · cases read

theorem sound_selectItems (here : left <:+ tokens) :
    Sound text.toList tokens (fun read => read.2 <:+ tokens ∧
      ∀ kept, .expression kept ∈ read.1 → ∃ first next, CutOut text.toList tokens first next kept)
      (selectItems text.toList left) := by
  fun_induction selectItems text.toList left with
  | case1 left e failed => exact (sound_selectItem lexes here).of_error failed
  | case2 left first rest read =>
    obtain ⟨behind, cut⟩ := (sound_selectItem lexes here).of_ok read
    exact ⟨behind, fun kept member => cut kept (List.mem_singleton.1 member).symm⟩
  | case3 left first rest read next comma _ e failed ih =>
    obtain ⟨behind, -⟩ := (sound_selectItem lexes here).of_ok read
    exact (ih ((suffix_of_skip? comma).trans behind)).of_error failed
  | case4 left first rest read next comma _ others last more ih =>
    obtain ⟨behind, cut⟩ := (sound_selectItem lexes here).of_ok read
    obtain ⟨behindAll, cutAll⟩ := (ih ((suffix_of_skip? comma).trans behind)).of_ok more
    refine ⟨behindAll, fun kept member => ?_⟩
    rcases List.mem_cons.1 member with same | later
    · exact cut kept same.symm
    · exact cutAll kept later

theorem sound_condition (here : left <:+ tokens) :
    Sound text.toList tokens (fun read => read.2 <:+ tokens ∧
      ∀ kept, read.1 = .unsupported kept → ∃ first next, CutOut text.toList tokens first next kept)
      (condition text.toList left) := by
  cases read : condition text.toList left with
  | ok predicate =>
    obtain ⟨predicate, rest⟩ := predicate
    refine ⟨(suffix_of_condition read).trans here, ?_⟩
    rintro kept rfl
    obtain ⟨first, -, next, -, -, -, cut⟩ := cutOut_of_keeps lexes here (.condition read)
    exact ⟨first, next, cut⟩
  | error e =>
    unfold condition at read
    dsimp only at read
    split at read
    · cases read
      exact pointsInto_unexpected here _
    · cases read

theorem sound_whereClause (here : left <:+ tokens) :
    Sound text.toList tokens (fun read => read.2 <:+ tokens ∧
      ∀ kept, read.1 = some (.unsupported kept) →
        ∃ first next, CutOut text.toList tokens first next kept)
      (whereClause text.toList left) := by
  unfold whereClause
  split
  · exact ⟨here, fun _ absent => by cases absent⟩
  · rename_i rest where?
    refine (sound_condition lexes ((suffix_of_skip? where?).trans here)).bind fun read sound => ?_
    exact ⟨sound.1, fun kept same => sound.2 kept (Option.some.inj same)⟩

theorem sound_select (here : left <:+ tokens) :
    SoundStatement text.toList tokens (select text.toList left) := by
  refine (sound_expect here).bind fun _ select => ?_
  refine (sound_selectItems lexes select).bind fun items ⟨behind, cutItems⟩ => ?_
  dsimp only
  split
  · refine ⟨behind, fun kept holds => ?_⟩
    cases holds with
    | item member => exact cutItems kept member
    | condition clause => cases clause
    | trailing behind => cases behind
  · rename_i rest from?
    refine (sound_name ((suffix_of_skip? from?).trans behind)).bind fun table afterTable => ?_
    refine (sound_whereClause lexes ((passes_skipAlias _).suffix.trans afterTable)).bind
      fun condition ⟨afterWhere, cutCondition⟩ => ?_
    refine (sound_groupClause afterWhere).bind fun group afterGroup => ?_
    refine ⟨(passes_trailing _ _).suffix.trans afterGroup, fun kept holds => ?_⟩
    cases holds with
    | item member => exact cutItems kept member
    | condition clause => exact cutCondition kept clause
    | trailing behind =>
      obtain ⟨first, -, next, -, -, -, cut⟩ :=
        cutOut_of_keeps lexes afterGroup (.trailing (Prod.ext behind rfl))
      exact ⟨first, next, cut⟩

/-- The text of a whole statement is all in front of the last token. -/
theorem cutOut_statement {t : Token} {rest : List Token} (here : t :: rest <:+ tokens)
    (inside : t.kind ≠ .eof) :
    ∃ last, CutOut text.toList tokens t last (textBetween text.toList (t :: rest)
      ((t :: rest).drop ((t :: rest).length - 1))) := by
  obtain ⟨others, ended, -⟩ := (Lexer.laidOut_of_tokenize lexes).ends
  obtain ⟨front, covers⟩ := here
  rcases rest.eq_nil_or_concat with rfl | ⟨inner, last, rfl⟩
  · rw [ended] at covers
    obtain ⟨-, same⟩ := List.append_inj' covers rfl
    obtain ⟨rfl, -⟩ := List.cons.inj same
    exact absurd rfl inside
  · rw [List.concat_eq_append] at covers ⊢
    have stop : (t :: (inner ++ [last])).drop ((t :: (inner ++ [last])).length - 1) = [last] := by
      simp
    rw [stop]
    exact ⟨last, cutOut_textBetween lexes covers.symm⟩

theorem sound_body (here : left <:+ tokens) :
    SoundStatement text.toList tokens (body text.toList left) := by
  unfold body
  split
  · exact .unexpectedEnd
  rename_i t rest
  split
  · exact sound_createTable here
  · exact sound_dropTable here
  · exact sound_delete here
  · exact sound_insert lexes here
  · exact sound_select lexes here
  · exact .unexpectedEnd
  · rename_i inside
    obtain ⟨last, cut⟩ := cutOut_statement lexes here inside
    exact .unknownStatement cut

theorem sound_statement :
    Sound text.toList tokens
      (fun parsed => ∀ kept, parsed.Holds kept →
        ∃ first next, CutOut text.toList tokens first next kept)
      (statement text.toList tokens) := by
  refine (sound_body lexes List.suffix_rfl).bind fun read ⟨behind, cut⟩ => ?_
  have terminated : (skip? .semicolon read.2).getD read.2 <:+ tokens := by
    cases skipped : skip? .semicolon read.2 with
    | none => exact behind
    | some rest => exact (suffix_of_skip? skipped).trans behind
  exact (sound_expect terminated).bind fun _ _ => cut

end Texts

/-- The texts and the places in what is made of a text that can be lexed are those of its tokens.
What a reader keeps as text runs from the first token it finds to one behind it, so that there
always is a slice of the source to keep, and a minus in front of an integer never overflows. What a
statement holds as text is cut out of the source in the same way, and an error names a token of the
text, or a text that is cut out of it. -/
theorem parse_faithful {text : String} {tokens : List Token} (lexes : tokenize text = .ok tokens) :
    (∀ left rest kept, left <:+ tokens → Keeps text.toList left rest kept →
      ∃ first later next behind, left = first :: later ∧ rest = next :: behind ∧
        CutOut text.toList tokens first next kept) ∧
    (∀ parsed, Statement.parse text = .ok parsed →
      ∀ kept, parsed.Holds kept → ∃ first next, CutOut text.toList tokens first next kept) ∧
    (∀ e, Statement.parse text = .error e → PointsInto text.toList tokens e) ∧
    ∀ t ∈ tokens, ∀ i, t.kind = .integer i → (-i).toInt = -i.toInt := by
  have parses : Statement.parse text = statement text.toList tokens := by
    rw [Statement.parse, lexes]
  rw [parses]
  refine ⟨fun left rest kept here keeps => cutOut_of_keeps lexes here keeps, fun parsed => ?_,
    fun e => ?_, fun t member i isInteger => ?_⟩
  · exact (sound_statement lexes).of_ok
  · exact (sound_statement lexes).of_error
  · exact toInt_neg_of_nonneg ((Lexer.laidOut_of_tokenize lexes).nonneg t member i isInteger)

/-- White space of several bytes behind an item, and a literal of two tokens behind an integer with
a minus. -/
theorem parse_faithful_spaces :
    let query := "SELECT 'é' + b\u2003, c FROM t"
    let rows := "INSERT INTO t VALUES (- 7, 'é' 2 )"
    (∃ tokens parsed, tokenize query = .ok tokens ∧ Statement.parse query = .ok parsed ∧
      parsed.Holds "'é' + b" ∧ ∃ first next, CutOut query.toList tokens first next "'é' + b") ∧
    ∃ tokens, tokenize rows = .ok tokens ∧
      Statement.parse rows = .error (.malformedLiteral "'é' 2" 27) ∧
      PointsInto rows.toList tokens (.malformedLiteral "'é' 2" 27) ∧
      (-7 : Int64).toInt = -(7 : Int64).toInt := by
  intro query rows
  constructor
  · let parsed : Select :=
      ⟨[.expression "'é' + b", .column ⟨none, "c"⟩], some "t", none, none, none⟩
    have lexes : tokenize query = .ok
        [⟨.keyword .SELECT, 0⟩, ⟨.string "é", 7⟩, ⟨.plus, 12⟩, ⟨.identifier "b", 14⟩, ⟨.comma, 18⟩,
          ⟨.identifier "c", 20⟩, ⟨.keyword .FROM, 22⟩, ⟨.identifier "t", 27⟩, ⟨.eof, 28⟩] := by
      decide +kernel
    have parses : Statement.parse query = .ok (.select parsed) := by
      decide +kernel
    have holds : (Statement.select parsed).Holds "'é' + b" := .item (by decide)
    exact ⟨_, _, lexes, parses, holds, (parse_faithful lexes).2.1 _ parses _ holds⟩
  · have lexes : tokenize rows = .ok
        [⟨.keyword .INSERT, 0⟩, ⟨.keyword .INTO, 7⟩, ⟨.identifier "t", 12⟩, ⟨.keyword .VALUES, 14⟩,
          ⟨.leftParen, 21⟩, ⟨.minus, 22⟩, ⟨.integer 7, 24⟩, ⟨.comma, 25⟩, ⟨.string "é", 27⟩,
          ⟨.integer 2, 32⟩, ⟨.rightParen, 34⟩, ⟨.eof, 35⟩] := by
      decide +kernel
    have fails : Statement.parse rows = .error (.malformedLiteral "'é' 2" 27) := by
      decide +kernel
    obtain ⟨-, -, points, negates⟩ := parse_faithful lexes
    exact ⟨_, lexes, fails, points _ fails, negates ⟨.integer 7, 24⟩ (by simp) 7 rfl⟩

end Parser

end SqlGrader
