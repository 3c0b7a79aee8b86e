import SqlGrader.Proofs.Session.Leniency
import SqlGrader.Proofs.Session.StrippedSpans
import SqlGrader.Proofs.Statement.Grammar

/-!
# Cutting scripts at tokens

A script is cut at every semicolon, whatever it stands in. `cut?` cuts at the tokens of
semicolons only. Main statements: the cut at tokens gives the spans between the tokens
(`cut?_eq_groups`), the store that a text leaves depends on the kinds of its tokens only
(`after_eq_of_kinds`), and on a plain script a lenient session leaves the same tables by both cuts
(`runCut?_eq_runScript`). Scripts that are not plain can tell the cuts apart
(`not_always_runCut?_eq_runScript`).
-/

set_option autoImplicit false

namespace SqlGrader.Script

open Lexer

def semicolons (tokens : List Token) : List Nat :=
  (tokens.filter fun t => t.kind = .semicolon).map (·.position)

/-- The parts of a text from a byte offset on, between the bytes at the later offsets; `none` if
an offset is inside a character or beyond the end. -/
def cutFrom? (cs : List Char) (start : Nat) : List Nat → Option (List (List Char))
  | [] => (Text.dropBytes? start cs).map fun last => [last]
  | stop :: stops =>
    (Text.slice? cs start stop).bind fun piece =>
      (cutFrom? cs (stop + 1) stops).map (piece :: ·)

/-- The pieces of a script between its semicolon tokens. -/
def cut? (script : String) (tokens : List Token) : Option (List String) :=
  (cutFrom? script.toList 0 (semicolons tokens)).map fun pieces => pieces.map String.ofList

def groups : List Span → List (List Span)
  | [] => [[]]
  | span :: rest =>
    if span.kind? = some .semicolon then [] :: groups rest
    else (groups rest).modifyHead (span :: ·)

theorem exists_groups (spans : List Span) :
    ∃ first others, groups spans = first :: others ∧ first <+: spans ∧
      ∀ group ∈ others, group <:+: spans := by
  induction spans with
  | nil => exact ⟨[], [], rfl, List.prefix_refl [], by simp⟩
  | cons span rest ih =>
    obtain ⟨first, others, cut, front, inside⟩ := ih
    by_cases semicolon : span.kind? = some .semicolon
    · refine ⟨[], first :: others, by simp [groups, semicolon, cut], List.nil_prefix, ?_⟩
      intro group member
      rcases List.mem_cons.1 member with rfl | member
      · exact List.infix_cons front.isInfix
      · exact List.infix_cons (inside group member)
    · refine ⟨span :: first, others, by simp [groups, semicolon, cut], ?_, ?_⟩
      · exact List.cons_prefix_cons.2 ⟨rfl, front⟩
      · exact fun group member => List.infix_cons (inside group member)

theorem infix_of_mem_groups {spans group : List Span} (member : group ∈ groups spans) :
    group <:+: spans := by
  obtain ⟨first, others, cut, front, inside⟩ := exists_groups spans
  rw [cut] at member
  rcases List.mem_cons.1 member with rfl | member
  · exact front.isInfix
  · exact inside group member

theorem lexed_of_inside {next? : Option Char} {spans group : List Span} (h : Lexed next? spans)
    (inside : group <:+: spans) : Lexed none group := by
  obtain ⟨before, after, rfl⟩ := inside
  exact (lexed_append.1 (lexed_append.1 h).1).2.blank (.inl rfl)

/-! ## Both cuts -/

theorem pieces_append {separator : Char} {front : List Char} (inside : separator ∉ front)
    (rest : List Char) :
    Text.pieces separator (front ++ rest) =
      (Text.pieces separator rest).modifyHead (front ++ ·) := by
  induction front with
  | nil =>
    rw [List.nil_append]
    cases Text.pieces separator rest <;> rfl
  | cons c front ih =>
    rw [List.mem_cons, not_or] at inside
    rw [List.cons_append, pieces_cons_of_ne (Ne.symm inside.1), ih inside.2,
      List.modifyHead_modifyHead]
    rfl

theorem map_textOf_modifyHead (span : Span) (parts : List (List Span)) :
    (parts.modifyHead (span :: ·)).map textOf = (parts.map textOf).modifyHead (span.text ++ ·) := by
  cases parts <;> rfl

/-- The cut at every semicolon, where a semicolon stands in no other span. -/
theorem pieces_textOf {next? : Option Char} {spans : List Span} (h : Lexed next? spans)
    (plain : ∀ span ∈ spans, ';' ∈ span.text → span.kind? = some .semicolon) :
    Text.pieces ';' (textOf spans) = (groups spans).map textOf := by
  induction spans with
  | nil => rfl
  | cons span rest ih =>
    obtain ⟨reads, later⟩ := h
    have after := ih later fun other member => plain other (List.mem_cons_of_mem span member)
    obtain ⟨text, kind?⟩ := span
    by_cases semicolon : kind? = some .semicolon
    · subst semicolon
      obtain rfl : text = [';'] := reads.eq_semicolon
      simp [groups, Text.pieces, after]
    · have absent : ';' ∉ text := fun member => semicolon (plain _ List.mem_cons_self member)
      rw [groups, if_neg semicolon, map_textOf_modifyHead, ← after]
      exact pieces_append absent (textOf rest)

theorem semicolons_tokensOf_semicolon (position : Nat) (text : List Char) (rest : List Span) :
    semicolons (tokensOf position (⟨text, some .semicolon⟩ :: rest)) =
      position :: semicolons (tokensOf (position + Text.byteLength text) rest) := rfl

theorem semicolons_tokensOf {text : List Char} {kind? : Option TokenKind}
    (h : kind? ≠ some .semicolon) (position : Nat) (rest : List Span) :
    semicolons (tokensOf position (⟨text, kind?⟩ :: rest)) =
      semicolons (tokensOf (position + Text.byteLength text) rest) := by
  cases kind? with
  | none => rfl
  | some kind =>
    have other : kind ≠ .semicolon := fun same => h (by rw [same])
    simp [semicolons, tokensOf, other]

theorem cutFrom?_append {next? : Option Char} {spans : List Span} (h : Lexed next? spans)
    (before inside : List Char) :
    cutFrom? (before ++ (inside ++ textOf spans)) (Text.byteLength before)
        (semicolons (tokensOf (Text.byteLength before + Text.byteLength inside) spans)) =
      some (((groups spans).map textOf).modifyHead (inside ++ ·)) := by
  induction spans generalizing before inside with
  | nil => simp [tokensOf, semicolons, cutFrom?, groups, Text.dropBytes?_append]
  | cons span rest ih =>
    obtain ⟨reads, later⟩ := h
    obtain ⟨text, kind?⟩ := span
    by_cases semicolon : kind? = some .semicolon
    · subst semicolon
      obtain rfl : text = [';'] := reads.eq_semicolon
      have after := ih later (before ++ (inside ++ [';'])) []
      have whole : before ++ (inside ++ [';']) ++ ([] ++ textOf rest) =
          before ++ (inside ++ textOf (⟨[';'], some .semicolon⟩ :: rest)) := by simp
      have width : Text.byteLength [';'] = 1 := by decide
      rw [whole, Text.byteLength_append, Text.byteLength_append, width, ← Nat.add_assoc,
        Text.byteLength, Nat.add_zero] at after
      rw [semicolons_tokensOf_semicolon, width, cutFrom?, Text.slice?_append, Option.bind_some,
        after]
      cases cut : groups rest <;> simp [groups, cut]
    · have after := ih later before (inside ++ text)
      rw [Text.byteLength_append, ← Nat.add_assoc, List.append_assoc] at after
      rw [semicolons_tokensOf semicolon, textOf_cons, after, groups, if_neg semicolon,
        map_textOf_modifyHead, List.modifyHead_modifyHead]
      congr
      funext part
      exact List.append_assoc inside text part

/-- The cut at the tokens of semicolons. -/
theorem cut?_eq_groups {script : String} {spans : List Span} (whole : textOf spans = script.toList)
    (h : Lexed none spans) :
    cut? script (tokensOf 0 spans) =
      some ((groups spans).map fun group => String.ofList (textOf group)) := by
  have cut := cutFrom?_append h [] []
  rw [List.nil_append, List.nil_append, whole, Text.byteLength, Nat.add_zero] at cut
  rw [cut?, cut, Option.map_some]
  cases groups spans <;> simp

end SqlGrader.Script

namespace SqlGrader

open SqlGrader.Lexer SqlGrader.Script

/-! ## What a text leaves behind -/

theorem Lexer.kindsOf_eq_of_textOf_eq {spans others : List Span} (h : Lexed none spans)
    (h' : Lexed none others) (same : textOf spans = textOf others) :
    kindsOf spans = kindsOf others := by
  have first := tokensFrom_eq_ok_iff.2 ⟨spans, rfl, h, (rfl : tokensOf 0 spans = tokensOf 0 spans)⟩
  have second := tokensFrom_eq_ok_iff.2
    ⟨others, rfl, h', (rfl : tokensOf 0 others = tokensOf 0 others)⟩
  rw [same, second] at first
  have kinds := congrArg (List.map Token.kind) (Except.ok.inj first)
  rw [map_kind_tokensOf, map_kind_tokensOf] at kinds
  exact (List.append_cancel_right kinds).symm

theorem Statement.parse_of_kinds {spans others : List Span} (h : Lexed none spans)
    (h' : Lexed none others) (same : kindsOf spans = kindsOf others) {parsed : Statement}
    (notQuery : ∀ query, parsed ≠ .select query)
    (parses : Statement.parse (String.ofList (textOf spans)) = .ok parsed) :
    Statement.parse (String.ofList (textOf others)) = .ok parsed := by
  obtain ⟨read, whole, lexed, command⟩ := (Statement.parse_eq_ok_iff notQuery).1 parses
  rw [String.toList_ofList] at whole
  refine (Statement.parse_eq_ok_iff notQuery).2 ⟨others, by simp, h', ?_⟩
  rwa [← same, ← kindsOf_eq_of_textOf_eq lexed h whole]

/-- A text that is no command leaves the store as it was. -/
theorem Store.after_of_no_command {sql : String}
    (h : ∀ parsed, Statement.parse sql = .ok parsed → ∃ query, parsed = .select query)
    (store : Store) : store.after sql = store := by
  unfold Store.after
  split
  · rename_i parsed parses
    obtain ⟨query, rfl⟩ := h parsed parses
    rfl
  · rfl

/-- The store that a text leaves behind depends on the kinds of its tokens only. -/
theorem Store.after_eq_of_kinds {spans others : List Span} (h : Lexed none spans)
    (h' : Lexed none others) (same : kindsOf spans = kindsOf others) (store : Store) :
    store.after (String.ofList (textOf spans)) = store.after (String.ofList (textOf others)) := by
  by_cases command : ∃ parsed, Statement.parse (String.ofList (textOf spans)) = .ok parsed ∧
      ∀ query, parsed ≠ .select query
  · obtain ⟨parsed, parses, notQuery⟩ := command
    have other := Statement.parse_of_kinds h h' same notQuery parses
    simp only [Store.after, parses, other]
  · have noCommand : ∀ parsed, Statement.parse (String.ofList (textOf spans)) = .ok parsed →
        ∃ query, parsed = .select query := by
      intro parsed parses
      refine Classical.byContradiction fun none? => command ⟨parsed, parses, ?_⟩
      exact fun query equal => none? ⟨query, equal⟩
    rw [Store.after_of_no_command noCommand, Store.after_of_no_command]
    intro parsed parses
    apply Classical.byContradiction
    intro none?
    have notQuery : ∀ query, parsed ≠ .select query := fun query equal => none? ⟨query, equal⟩
    exact none? (noCommand parsed (Statement.parse_of_kinds h' h same.symm notQuery parses))

/-- Cleaning a piece of plain spans makes no difference. -/
theorem Store.after_cleaned {spans : List Span} (h : Lexed none spans)
    (plain : ∀ span ∈ spans, Plain span) (store : Store) :
    store.after (String.ofList (cleaned (textOf spans))) =
      store.after (String.ofList (textOf spans)) := by
  obtain ⟨stripped, text, lexed, kinds⟩ := strips_of_plain h plain fun dropped => .inr dropped
  obtain ⟨trimmed, whole, lexed, same⟩ := exists_trim lexed
  rw [cleaned_eq_trim_strip, ← text, ← whole]
  exact Store.after_eq_of_kinds lexed h (same.trans kinds) store

theorem Store.after_empty (store : Store) : store.after "" = store := by
  refine Store.after_of_no_command (fun parsed parses => ?_) store
  have none? : (Statement.parse "").toOption = none := by decide +kernel
  rw [parses] at none?
  cases none?

/-- Empty pieces make no difference. -/
theorem foldl_after_filter (pieces : List (List Char)) (store : Store) :
    ((pieces.filter (· ≠ [])).map String.ofList).foldl Store.after store =
      (pieces.map String.ofList).foldl Store.after store := by
  induction pieces generalizing store with
  | nil => rfl
  | cons piece rest ih =>
    cases piece with
    | nil =>
      rw [List.filter_cons_of_neg (by simp), ih, List.map_cons, List.foldl_cons,
        String.ofList_nil, Store.after_empty]
    | cons c piece =>
      rw [List.filter_cons_of_pos (by simp), List.map_cons, List.map_cons, List.foldl_cons,
        List.foldl_cons, ih]

/-- Pieces of plain spans leave the same store cleaned and as they are. -/
theorem foldl_after_cleaned {parts : List (List Span)}
    (h : ∀ part ∈ parts, Lexed none part ∧ ∀ span ∈ part, Plain span) (store : Store) :
    ((((parts.map textOf).map cleaned).filter (· ≠ [])).map String.ofList).foldl Store.after store =
      (parts.map fun part => String.ofList (textOf part)).foldl Store.after store := by
  rw [foldl_after_filter]
  induction parts generalizing store with
  | nil => rfl
  | cons part rest ih =>
    obtain ⟨lexed, plain⟩ := h part List.mem_cons_self
    have later := ih fun other member => h other (List.mem_cons_of_mem part member)
    simp only [List.map_cons, List.foldl_cons]
    rw [Store.after_cleaned lexed plain, later]

namespace Session

/-- Carries out what stands between the semicolon tokens of a script; `none` if the script cannot
be cut into tokens. -/
def runCut? (s : Session) (script : String) : Option Session :=
  match tokenize script with
  | .ok tokens => (cut? script tokens).map fun pieces => (s.runEach pieces).2
  | .error _ => none

/-- On a plain script a lenient session leaves the same tables by the cut at every semicolon as
by the cut at the semicolon tokens. -/
theorem runCut?_eq_runScript {s : Session} {script : String} (lenient : s.leniency = .lenient)
    (plain : PlainScript script) : s.runCut? script = some (s.runScript script).2 := by
  obtain ⟨spans, whole, lexed, plain⟩ := plain
  have parts : ∀ part ∈ groups spans, Lexed none part ∧ ∀ span ∈ part, Plain span := by
    intro part member
    have inside := infix_of_mem_groups member
    exact ⟨lexed_of_inside lexed inside, fun span within => plain span (inside.subset within)⟩
  have pieces := pieces_textOf lexed fun span member => (plain span member).semicolon
  rw [runCut?, tokenize_eq_ok_iff.2 ⟨spans, whole, lexed, rfl⟩]
  dsimp only
  rw [cut?_eq_groups whole lexed, Option.map_some, runScript_snd,
    runEach_snd_of_ok (runEach_lenient lenient _), runEach_snd_of_ok (runEach_lenient lenient _),
    Script.split, ← whole, pieces, foldl_after_cleaned parts]

/-- Comment lines, empty pieces and carriage returns make no difference. -/
theorem runCut?_comment_line :
    PlainScript "CREATE TABLE t;\r\n -- old\r\n;DROP TABLE -- new\r\nu;" ∧
      (start .empty .lenient .row .builtin).runCut?
          "CREATE TABLE t;\r\n -- old\r\n;DROP TABLE -- new\r\nu;" =
        some ((start .empty .lenient .row .builtin).runScript
          "CREATE TABLE t;\r\n -- old\r\n;DROP TABLE -- new\r\nu;").2 := by
  have lexes : tokenize "CREATE TABLE t;\r\n -- old\r\n;DROP TABLE -- new\r\nu;" = .ok
      [⟨.keyword .CREATE, 0⟩, ⟨.keyword .TABLE, 7⟩, ⟨.identifier "t", 13⟩, ⟨.semicolon, 14⟩,
        ⟨.semicolon, 26⟩, ⟨.keyword .DROP, 27⟩, ⟨.keyword .TABLE, 32⟩, ⟨.identifier "u", 46⟩,
        ⟨.semicolon, 47⟩, ⟨.eof, 48⟩] :=
    tokenize_of_toOption (by decide +kernel)
  have plain := plainScript_of_bare lexes
    ⟨by decide, by simp [List.infix_cons_iff], by decide +kernel⟩
  exact ⟨plain, runCut?_eq_runScript rfl plain⟩

/-- By the two cuts of a script a new lenient session comes to different tables. -/
def CutsDiffer (script : String) : Prop :=
  ∃ cut, (start .empty .lenient .row .builtin).runCut? script = some cut ∧
    cut.store ≠ ((start .empty .lenient .row .builtin).runScript script).2.store

theorem cutsDiffer_of_compare {script : String}
    (h : ((start .empty .lenient .row .builtin).runCut? script).map (fun cut =>
      decide (cut.store =
        ((start .empty .lenient .row .builtin).runScript script).2.store)) = some false) :
    CutsDiffer script := by
  obtain ⟨cut, runs, other⟩ := Option.map_eq_some_iff.1 h
  exact ⟨cut, runs, of_decide_eq_false other⟩

/-- A semicolon in a quoted text or in a comment, a line of dashes in a quoted text or at the end
of a comment, and a carriage return in a quoted text: by each of them the two cuts differ. -/
theorem not_always_runCut?_eq_runScript :
    CutsDiffer "CREATE TABLE t;INSERT INTO t VALUES ('a;b')" ∧
      CutsDiffer "CREATE TABLE t -- ;DROP TABLE t" ∧
      CutsDiffer "CREATE TABLE t;INSERT INTO t VALUES ('a\n--b\nc')" ∧
      CutsDiffer "CREATE TABLE t;/*\n--*/DROP TABLE t" ∧
      CutsDiffer "CREATE TABLE t;INSERT INTO t VALUES ('a\r\nb')" := by
  refine ⟨cutsDiffer_of_compare ?_, cutsDiffer_of_compare ?_, cutsDiffer_of_compare ?_,
    cutsDiffer_of_compare ?_, cutsDiffer_of_compare ?_⟩
  all_goals decide +kernel

end Session

end SqlGrader
