import SqlGrader.Proofs.Statement.InterpretedQueries
import SqlGrader.Proofs.Token.Places
import SqlGrader.Proofs.Unicode.TrimmedEnds

/-!
# Texts cut out of the source

What the parser does not interpret it keeps as text: a select item, a condition, what trails behind
a query, and in messages a literal or a whole statement. Such a text stands in the source where its
tokens do. Main statement: the readers cut out no other texts, so that there always is something to
cut out (`cutOut_of_keeps`).
-/

set_option autoImplicit false

namespace SqlGrader.Parser

/-- A text stands in a source at some of its tokens: it begins where the first of them does and ends
in front of the next token behind them, with nothing but white space in between. It has no white
space at its ends, and hence it is not empty. -/
inductive CutOut (source : List Char) (tokens : List Token) : Token → Token → String → Prop where
  | of {front inner rest : List Token} {first next : Token} {text : String}
      {before blank after : List Char} (covers : tokens = front ++ first :: (inner ++ next :: rest))
      (whole : source = before ++ (text.toList ++ (blank ++ after)))
      (starts : first.position = Text.byteLength before)
      (ends : next.position = Text.byteLength (before ++ (text.toList ++ blank)))
      (white : ∀ c ∈ blank, Unicode.isWhiteSpace c = true) (solid : Lexer.Solid text.toList)
      (sliced : Text.slice? source first.position next.position = some (text.toList ++ blank)) :
      CutOut source tokens first next text

/-- A reader keeps a text at the tokens that are left, and is done in front of the rest of them,
whatever becomes of the statement. -/
inductive Keeps (source : List Char) (left : List Token) : List Token → String → Prop where
  | item {text : String} {rest : List Token}
      (read : selectItem source left = .ok (.expression text, rest)) : Keeps source left rest text
  | condition {text : String} {rest : List Token}
      (read : condition source left = .ok (.unsupported text, rest)) : Keeps source left rest text
  | trailing {text : String} {rest : List Token}
      (read : trailing source left = (some text, rest)) : Keeps source left rest text
  | literal {text : String} {position : Nat}
      (read : literal source left = .error (.malformedLiteral text position)) :
      Keeps source left (left.dropWhile insideLiteral) text

/-! ## Places -/

theorem solid_trim {cs : List Char} (some? : Unicode.trim cs ≠ []) :
    Lexer.Solid (Unicode.trim cs) := by
  obtain ⟨front, back⟩ := Unicode.trimmed_trim cs
  obtain ⟨c, rest, whole⟩ := List.exists_cons_of_ne_nil some?
  rw [whole] at front back ⊢
  exact ⟨⟨c, rfl, front c rfl⟩, ⟨_, List.getLast?_eq_some_getLast (List.cons_ne_nil c rest),
    back _ (List.getLast?_eq_some_getLast (List.cons_ne_nil c rest))⟩⟩

/-- A token in front of another one is not the end of the text. -/
theorem kind_ne_eof {text : String} {tokens front inner rest : List Token} {first next : Token}
    (laidOut : Lexer.LaidOut text tokens)
    (covers : tokens = front ++ first :: (inner ++ next :: rest)) : first.kind ≠ .eof := by
  obtain ⟨others, whole, inside⟩ := laidOut.ends
  refine inside first ?_
  have same : others = tokens.dropLast := by rw [whole, List.dropLast_concat]
  rw [same, covers, List.dropLast_append_of_ne_nil (by simp),
    List.dropLast_cons_of_ne_nil (by simp)]
  simp

/-- What stands between two places begins with the character at the first of them. -/
theorem exists_cons_of_between {source inside : List Char} {start stop : Nat}
    (between : Text.Between source inside start stop) (visible : Lexer.VisibleAt source start)
    (ascends : start < stop) :
    ∃ c more, inside = c :: more ∧ Unicode.isWhiteSpace c = false := by
  obtain ⟨before, after, whole, starts, ends⟩ := between
  obtain ⟨front, c, behind, whole', starts', visible⟩ := visible
  have same : inside ++ after = c :: behind := by
    have dropped := Text.dropBytes?_append before (inside ++ after)
    rw [← whole, ← starts, starts', whole', Text.dropBytes?_append] at dropped
    exact (Option.some.inj dropped).symm
  cases inside with
  | nil => simp [starts, ends] at ascends
  | cons d more => exact ⟨d, more, rfl, (List.cons.inj same).1 ▸ visible⟩

/-- The text from one token to a later one begins where the first of them does. -/
theorem cutOut_textBetween {text : String} {tokens front inner rest : List Token}
    {first next : Token} (lexes : tokenize text = .ok tokens)
    (covers : tokens = front ++ first :: (inner ++ next :: rest)) :
    CutOut text.toList tokens first next
      (textBetween text.toList (first :: (inner ++ next :: rest)) (next :: rest)) := by
  have laidOut := Lexer.laidOut_of_tokenize lexes
  obtain ⟨inside, between, kept⟩ := exists_textBetween lexes covers
  have visible := laidOut.visible first (by simp [covers]) (kind_ne_eof laidOut covers)
  have ascends : first.position < next.position := by
    have later := laidOut.increasing
    rw [covers] at later
    exact (List.pairwise_cons.1 (List.pairwise_append.1 later).2.1).1 next (by simp)
  obtain ⟨c, more, rfl, visible⟩ := exists_cons_of_between between visible ascends
  have notWhite : ∀ d, (c :: more).head? = some d → Unicode.isWhiteSpace d = false :=
    fun d head => Option.some.inj head ▸ visible
  obtain ⟨blank, parts, white⟩ := Unicode.exists_trim_append notWhite
  have some? : Unicode.trim (c :: more) ≠ [] := by
    intro nothing
    have blank := Unicode.trim_eq_nil_iff.1 nothing c List.mem_cons_self
    rw [visible] at blank
    cases blank
  have sliced := between.slice?_eq
  obtain ⟨before, after, whole, starts, ends⟩ := between
  rw [kept]
  refine @CutOut.of _ _ _ _ _ _ _ _ before blank after covers ?_ starts ?_ white ?_ ?_
  · rw [String.toList_ofList, ← List.append_assoc (Unicode.trim _), ← parts, whole]
  · rw [String.toList_ofList, ← parts, ends]
  · rw [String.toList_ofList]
    exact solid_trim some?
  · rw [String.toList_ofList, ← parts, sliced]

/-- Tokens none of which is the end of the text have another one behind them. -/
theorem cutOut_of_front {text : String} {tokens left part rest : List Token}
    (lexes : tokenize text = .ok tokens) (here : left <:+ tokens) (whole : left = part ++ rest)
    (nonempty : part ≠ []) (inside : ∀ t ∈ part, t.kind ≠ .eof) :
    ∃ first later next behind, left = first :: later ∧ rest = next :: behind ∧
      CutOut text.toList tokens first next (textBetween text.toList left rest) := by
  obtain ⟨front, covers⟩ := here
  obtain ⟨first, inner, rfl⟩ := List.exists_cons_of_ne_nil nonempty
  cases rest with
  | nil =>
    obtain ⟨others, ended, -⟩ := (Lexer.laidOut_of_tokenize lexes).ends
    have last : [⟨.eof, text.utf8ByteSize⟩] <:+ first :: inner :=
      List.suffix_of_suffix_length_le ⟨others, ended.symm⟩ ⟨front, by simpa [whole] using covers⟩
        (by simp)
    exact absurd rfl (inside _ (last.subset List.mem_cons_self))
  | cons next behind =>
    rw [whole] at covers ⊢
    exact ⟨first, inner ++ next :: behind, next, behind, rfl, rfl,
      cutOut_textBetween lexes covers.symm⟩

/-! ## Readers -/

theorem splitItem_append (depth : Nat) (tokens : List Token) :
    (splitItem depth tokens).1 ++ (splitItem depth tokens).2 = tokens := by
  fun_induction splitItem depth tokens <;> simp_all

theorem kind_ne_eof_of_splitItem {depth : Nat} {tokens : List Token} {t : Token}
    (member : t ∈ (splitItem depth tokens).1) : t.kind ≠ .eof := by
  fun_induction splitItem depth tokens <;> simp_all <;> grind

theorem itemOf?_ne_expression (kinds : List TokenKind) (text : String) :
    itemOf? kinds ≠ some (.expression text) := by
  unfold itemOf?
  split <;> simp

/-- No recognised item is kept as text. -/
theorem aliasedItemOf?_ne_expression (kinds : List TokenKind) (text : String) :
    aliasedItemOf? kinds ≠ some (.expression text) := by
  intro read
  rcases Option.or_eq_some_iff.1 read with read | ⟨-, read⟩
  · exact itemOf?_ne_expression _ _ read
  · obtain ⟨body, -, read⟩ := Option.bind_eq_some_iff.1 read
    exact itemOf?_ne_expression _ _ read

/-- An item that is kept as text is all that is taken for it. -/
theorem selectItem_eq_expression {source : List Char} {left rest : List Token} {kept : String}
    (read : selectItem source left = .ok (.expression kept, rest)) :
    (splitItem 0 left).1 ≠ [] ∧ rest = (splitItem 0 left).2 ∧
      kept = textBetween source left rest := by
  unfold selectItem at read
  dsimp only at read
  split at read
  · cases read
  rename_i first others taken
  obtain ⟨item, rfl⟩ := Prod.mk.inj (Except.ok.inj read)
  refine ⟨by simp [taken], rfl, ?_⟩
  cases found : aliasedItemOf? ((splitItem 0 left).1.map (·.kind)) with
  | none =>
    rw [found] at item
    exact (SelectItem.expression.inj item).symm
  | some other =>
    rw [found] at item
    exact absurd (found.trans (congrArg some item)) (aliasedItemOf?_ne_expression _ _)

/-- A condition that is kept as text is all of its clause. -/
theorem condition_eq_unsupported {source : List Char} {left rest : List Token} {kept : String}
    (read : condition source left = .ok (.unsupported kept, rest)) :
    left.takeWhile insideCondition ≠ [] ∧ rest = left.dropWhile insideCondition ∧
      kept = textBetween source left rest := by
  unfold condition at read
  dsimp only at read
  split at read
  · cases read
  rename_i first others taken
  obtain ⟨predicate, rfl⟩ := Prod.mk.inj (Except.ok.inj read)
  refine ⟨by simp [taken], rfl, ?_⟩
  rcases recognised : (comparison? left).filter _ with _ | found
  · rw [recognised] at predicate
    exact (Predicate.unsupported.inj predicate).symm
  · rw [recognised] at predicate
    obtain ⟨compares, -⟩ := Option.filter_eq_some_iff.1 recognised
    obtain ⟨kinds, spelled, -⟩ := comparison?_eq_some_iff.1 compares
    exact absurd predicate (spelled.ne_unsupported kept)

theorem trailing_eq_some {source : List Char} {left rest : List Token} {kept : String}
    (read : trailing source left = (some kept, rest)) :
    left.takeWhile insideStatement ≠ [] ∧ rest = left.dropWhile insideStatement ∧
      kept = textBetween source left rest := by
  unfold trailing at read
  dsimp only at read
  split at read
  · cases read
  · rename_i taken
    cases read
    exact ⟨by simp [taken], rfl, rfl⟩

theorem unexpected_ne_malformed (expected : Expectation) (left : List Token) (kept : String)
    (position : Nat) : unexpected expected left ≠ .malformedLiteral kept position := by
  unfold unexpected
  split
  · simp
  · split <;> simp

/-- A literal that is refused as such is all that stands in front of what can end it. -/
theorem literal_eq_malformed {source : List Char} {left : List Token} {kept : String}
    {position : Nat} (read : literal source left = .error (.malformedLiteral kept position)) :
    left.takeWhile insideLiteral ≠ [] ∧ position = positionOf 0 left ∧
      kept = textBetween source left (left.dropWhile insideLiteral) := by
  unfold literal at read
  dsimp only at read
  split at read
  · cases read
  split at read
  · exact absurd (Except.error.inj read) (unexpected_ne_malformed _ _ _ _)
  · rename_i first others taken
    cases read
    have whole : left = first :: (others ++ left.dropWhile insideLiteral) := by
      rw [← List.cons_append, ← taken, List.takeWhile_append_dropWhile]
    exact ⟨by simp [taken], by rw [whole]; rfl, rfl⟩

/-- What is kept is the text of the tokens that the reader has taken, and the end of the text is
none of them. -/
theorem Keeps.taken {source : List Char} {left rest : List Token} {kept : String}
    (keeps : Keeps source left rest kept) :
    kept = textBetween source left rest ∧
      ∃ part, left = part ++ rest ∧ part ≠ [] ∧ ∀ t ∈ part, t.kind ≠ .eof := by
  have spanned : ∀ {p : Token → Bool}, (∀ t, p t = true → t.kind ≠ .eof) →
      left.takeWhile p ≠ [] → ∃ part, left = part ++ left.dropWhile p ∧ part ≠ [] ∧
        ∀ t ∈ part, t.kind ≠ .eof :=
    fun inside nonempty => ⟨_, List.takeWhile_append_dropWhile.symm, nonempty,
      fun t member => inside t ((Text.longest_front left).1 t member)⟩
  cases keeps with
  | item read =>
    obtain ⟨nonempty, rfl, same⟩ := selectItem_eq_expression read
    exact ⟨same, _, (splitItem_append 0 left).symm, nonempty, fun t => kind_ne_eof_of_splitItem⟩
  | condition read =>
    obtain ⟨nonempty, rfl, same⟩ := condition_eq_unsupported read
    exact ⟨same, spanned (fun t inside => by simp_all [insideCondition]) nonempty⟩
  | trailing read =>
    obtain ⟨nonempty, rfl, same⟩ := trailing_eq_some read
    exact ⟨same, spanned (fun t inside => by simp_all [insideStatement]) nonempty⟩
  | literal read =>
    obtain ⟨nonempty, -, same⟩ := literal_eq_malformed read
    exact ⟨same, spanned (fun t inside => by simp_all [insideLiteral]) nonempty⟩

/-- The texts that the readers keep run from the first token left to the one at which reading goes
on. -/
theorem cutOut_of_keeps {text kept : String} {tokens left rest : List Token}
    (lexes : tokenize text = .ok tokens) (here : left <:+ tokens)
    (keeps : Keeps text.toList left rest kept) :
    ∃ first later next behind, left = first :: later ∧ rest = next :: behind ∧
      CutOut text.toList tokens first next kept := by
  obtain ⟨rfl, part, whole, nonempty, inside⟩ := keeps.taken
  exact cutOut_of_front lexes here whole nonempty inside

end SqlGrader.Parser
