import Mathlib.Data.List.Forall2
import SqlGrader.Plan.RowFilter
import SqlGrader.Proofs.Regex.Builtin

/-!
# What LIKE patterns match

A pattern says how a text may be cut. In the anchored form the text is cut completely along the
pattern, character by character; in the loose form the pieces of the pattern between its percent
signs stand one behind the other somewhere in the text. The source that a pattern is translated
into spells one item for each of its characters (`spells_source`), whatever library escapes the
literals, and these items occur in exactly the texts that have a cut (`occurs_anchored_iff`,
`occurs_loose_iff`). Main statement: what the filter of a condition passes, for every library that
is standard (`passes_like_iff`).
-/

set_option autoImplicit false

namespace SqlGrader

open Regex (Item Spells Occurs TakesFront)

/-- Characters that match without regard to case. -/
def SameLetter (c d : Char) : Prop :=
  Unicode.foldCase c = Unicode.foldCase d

/-- A text can be cut completely along a pattern: a percent sign takes any run of characters, an
underscore any one character, and every other character one of the same letter. -/
inductive CutAlong : List Char → List Char → Prop where
  | nil : CutAlong [] []
  | run {pattern text : List Char} (taken : List Char) (rest : CutAlong pattern text) :
      CutAlong ('%' :: pattern) (taken ++ text)
  | one {pattern text : List Char} (taken : Char) (rest : CutAlong pattern text) :
      CutAlong ('_' :: pattern) (taken :: text)
  | letter {c d : Char} {pattern text : List Char} (plain : c ≠ '%' ∧ c ≠ '_')
      (same : SameLetter c d) (rest : CutAlong pattern text) : CutAlong (c :: pattern) (d :: text)

/-- Pieces occur in a text from left to right without overlapping. -/
inductive OccurInOrder : List (List Char) → List Char → Prop where
  | nil (text : List Char) : OccurInOrder [] text
  | cons {piece occurrence text : List Char} {pieces : List (List Char)} (before : List Char)
      (same : List.Forall₂ SameLetter piece occurrence) (rest : OccurInOrder pieces text) :
      OccurInOrder (piece :: pieces) (before ++ (occurrence ++ text))

namespace Like

/-! ## Translation -/

def item (anchored : Bool) (c : Char) : Item :=
  if c = '%' then .anyRun else if c = '_' ∧ anchored then .anyChar else .char c

def items (anchored : Bool) (pattern : List Char) : List Item :=
  if anchored then .textStart :: (pattern.map (item true) ++ [.textEnd])
  else pattern.map (item false)

variable {regex : Regex.Library} {anchored : Bool} {t : Translation} {done : List Item}

/-- What is spelled so far, with the literal that is not yet escaped. -/
theorem spells_flush (standard : regex.IsStandard) (spelled : Spells t.source.toList done) :
    Spells (t.flush regex).toList (done ++ t.literal.toList.map .char) := by
  rw [Translation.flush, String.toList_append]
  exact spelled.append (standard.escape_spells t.literal)

/-- A character is put behind the literal or, as a wildcard, behind the escaped literal. -/
theorem spells_translate (standard : regex.IsStandard) (spelled : Spells t.source.toList done)
    (c : Char) : ∃ done', Spells (translate regex anchored t c).source.toList done' ∧
      done' ++ (translate regex anchored t c).literal.toList.map .char =
        done ++ t.literal.toList.map .char ++ [item anchored c] := by
  have flushed := spells_flush standard spelled
  unfold translate wildcard? item
  split_ifs with percent underscore
  · refine ⟨_, ?_, List.append_nil _⟩
    rw [String.toList_append]
    exact flushed.append (.anyRun .nil)
  · refine ⟨_, ?_, List.append_nil _⟩
    rw [String.toList_append]
    exact flushed.append (.anyChar .nil)
  · exact ⟨done, spelled, by simp⟩

theorem spells_foldl (standard : regex.IsStandard) (spelled : Spells t.source.toList done)
    (pattern : List Char) :
    Spells ((pattern.foldl (translate regex anchored) t).flush regex).toList
      (done ++ t.literal.toList.map .char ++ pattern.map (item anchored)) := by
  induction pattern generalizing t done with
  | nil => simpa using spells_flush standard spelled
  | cons c pattern ih =>
    obtain ⟨done', behind, same⟩ := spells_translate standard spelled c
    have whole := ih behind
    rw [same] at whole
    simpa using whole

/-- The source of a pattern spells an item for each of its characters, between the anchors. -/
theorem spells_source (standard : regex.IsStandard) (pattern : String) :
    Spells (source regex anchored pattern).toList (items anchored pattern.toList) := by
  unfold source items
  cases anchored with
  | false =>
    have spelled := @spells_foldl regex false ⟨"", ""⟩ [] standard .nil pattern.toList
    simpa using spelled
  | true =>
    have spelled := @spells_foldl regex true ⟨"^", ""⟩ [.textStart] standard (.textStart .nil)
      pattern.toList
    have whole := spelled.append (.textEnd .nil)
    simpa using whole

example : source .builtin true "a%_b.c" = "^a.*.b\\.c$" ∧
    source .builtin false "%_." = ".*_\\." := by
  decide +kernel

/-! ## The anchored form -/

theorem item_plain {c : Char} (percent : c ≠ '%') (underscore : c ≠ '_') :
    item anchored c = .char c := by
  rw [item, if_neg percent, if_neg (fun both => underscore both.1)]

theorem options_dotTakes (c : Char) : options.DotTakes c :=
  .inl rfl

/-- Up to its end, a text is taken up exactly when it can be cut along the pattern. -/
theorem takesFront_anchored_iff {pattern before text : List Char} :
    TakesFront options (pattern.map (item true) ++ [.textEnd]) before text ↔
      CutAlong pattern text := by
  induction pattern generalizing before text with
  | nil =>
    rw [List.map_nil, List.nil_append, Regex.takesFront_textEnd_iff]
    constructor
    · rintro ⟨rfl, -⟩
      exact .nil
    · intro cut
      cases cut
      exact ⟨rfl, .nil before []⟩
  | cons c pattern ih =>
    rw [List.map_cons, List.cons_append]
    by_cases percent : c = '%'
    · subst percent
      rw [show item true '%' = .anyRun from rfl, Regex.takesFront_anyRun_iff]
      constructor
      · rintro ⟨run, rest, rfl, -, taken⟩
        exact .run run (ih.1 taken)
      · intro cut
        cases cut with
        | run taken rest => exact ⟨taken, _, rfl, fun d _ => options_dotTakes d, ih.2 rest⟩
        | letter plain => exact absurd rfl plain.1
    by_cases underscore : c = '_'
    · subst underscore
      rw [show item true '_' = .anyChar from rfl, Regex.takesFront_anyChar_iff]
      constructor
      · rintro ⟨d, rest, rfl, -, taken⟩
        exact .one d (ih.1 taken)
      · intro cut
        cases cut with
        | one taken rest => exact ⟨taken, _, rfl, options_dotTakes taken, ih.2 rest⟩
        | letter plain => exact absurd rfl plain.2
    · rw [item_plain percent underscore, Regex.takesFront_char_iff]
      constructor
      · rintro ⟨d, rest, rfl, same, taken⟩
        exact .letter ⟨percent, underscore⟩ same (ih.1 taken)
      · intro cut
        cases cut with
        | run taken rest => exact absurd rfl percent
        | one taken rest => exact absurd rfl underscore
        | letter plain same rest => exact ⟨_, _, rfl, same, ih.2 rest⟩

theorem occurs_anchored_iff {pattern text : List Char} :
    Occurs options (items true pattern) text ↔ CutAlong pattern text := by
  rw [items, if_pos rfl]
  constructor
  · rintro ⟨before, rest, rfl, taken⟩
    obtain ⟨rfl, behind⟩ := Regex.takesFront_textStart_iff.1 taken
    exact takesFront_anchored_iff.1 behind
  · intro cut
    exact ⟨[], text, rfl, .textStart (takesFront_anchored_iff.2 cut)⟩

/-! ## The loose form -/

/-- The first piece stands at the front of a text, and the others occur behind it. -/
def BeginsWith (piece : List Char) (pieces : List (List Char)) (text : List Char) : Prop :=
  ∃ occurrence rest, text = occurrence ++ rest ∧ List.Forall₂ SameLetter piece occurrence ∧
    OccurInOrder pieces rest

/-- Pieces occur where the first of them stands somewhere, with the others behind it. -/
theorem occurInOrder_cons_iff {piece text : List Char} {pieces : List (List Char)} :
    OccurInOrder (piece :: pieces) text ↔
      ∃ before rest, text = before ++ rest ∧ BeginsWith piece pieces rest := by
  constructor
  · intro occurs
    cases occurs with
    | cons before same later => exact ⟨before, _, rfl, _, _, rfl, same, later⟩
  · rintro ⟨before, _, rfl, occurrence, rest, rfl, same, later⟩
    exact .cons before same later

/-- A piece that is empty stands at the front of every text. -/
theorem beginsWith_nil_iff {pieces : List (List Char)} {text : List Char} :
    BeginsWith [] pieces text ↔ OccurInOrder pieces text := by
  constructor
  · rintro ⟨occurrence, rest, rfl, same, later⟩
    cases same
    exact later
  · exact fun later => ⟨[], text, rfl, .nil, later⟩

theorem beginsWith_cons_iff {c : Char} {piece text : List Char} {pieces : List (List Char)} :
    BeginsWith (c :: piece) pieces text ↔
      ∃ d rest, text = d :: rest ∧ SameLetter c d ∧ BeginsWith piece pieces rest := by
  constructor
  · rintro ⟨occurrence, behind, rfl, same, later⟩
    cases same with
    | @cons _ d _ occurrence first others =>
      exact ⟨d, occurrence ++ behind, rfl, first, occurrence, behind, rfl, others, later⟩
  · rintro ⟨d, rest, rfl, first, occurrence, behind, rfl, others, later⟩
    exact ⟨d :: occurrence, behind, rfl, .cons first others, later⟩

/-- A front of a text is taken up exactly when the pieces stand one behind the other in it, the
first of them at the front. -/
theorem takesFront_loose_iff {pattern before text piece : List Char} {pieces : List (List Char)}
    (split : pattern.splitOn '%' = piece :: pieces) :
    TakesFront options (pattern.map (item false)) before text ↔ BeginsWith piece pieces text := by
  induction pattern generalizing before text piece pieces with
  | nil =>
    obtain ⟨rfl, rfl⟩ := List.cons.inj split
    exact iff_of_true (.nil before text) (beginsWith_nil_iff.2 (.nil text))
  | cons c pattern ih =>
    obtain ⟨first, others, later⟩ :=
      List.exists_cons_of_ne_nil (List.splitOnP_ne_nil (· == '%') pattern)
    have front := fun before text => @ih before text first others later
    rw [List.splitOn, List.splitOnP_cons_eq_if_modifyHead, later] at split
    rw [List.map_cons]
    by_cases percent : c = '%'
    · subst percent
      obtain ⟨rfl, rfl⟩ := List.cons.inj split
      rw [show item false '%' = .anyRun from rfl, Regex.takesFront_anyRun_iff, beginsWith_nil_iff,
        occurInOrder_cons_iff]
      constructor
      · rintro ⟨run, rest, rfl, -, taken⟩
        exact ⟨run, rest, rfl, (front _ _).1 taken⟩
      · rintro ⟨run, rest, rfl, begins⟩
        exact ⟨run, rest, rfl, fun d _ => options_dotTakes d, (front _ _).2 begins⟩
    · rw [if_neg (by simpa using percent), List.modifyHead_cons] at split
      obtain ⟨rfl, rfl⟩ := List.cons.inj split
      have kept : item false c = .char c := by simp [item, percent]
      rw [kept, Regex.takesFront_char_iff, beginsWith_cons_iff]
      constructor
      · rintro ⟨d, rest, rfl, same, taken⟩
        exact ⟨d, rest, rfl, same, (front _ _).1 taken⟩
      · rintro ⟨d, rest, rfl, same, begins⟩
        exact ⟨d, rest, rfl, same, (front _ _).2 begins⟩

theorem occurs_loose_iff {pattern text : List Char} :
    Occurs options (items false pattern) text ↔ OccurInOrder (pattern.splitOn '%') text := by
  obtain ⟨piece, pieces, split⟩ :=
    List.exists_cons_of_ne_nil (List.splitOnP_ne_nil (· == '%') pattern)
  rw [List.splitOn, split, occurInOrder_cons_iff, items, if_neg Bool.false_ne_true]
  constructor
  · rintro ⟨before, rest, rfl, taken⟩
    exact ⟨before, rest, rfl, (takesFront_loose_iff split).1 taken⟩
  · rintro ⟨before, rest, rfl, begins⟩
    exact ⟨before, rest, rfl, (takesFront_loose_iff split).2 begins⟩

/-! ## Matchers -/

theorem build_eq_ok_iff {pattern : String} {isMatch : String → Bool} :
    build regex anchored pattern = .ok isMatch ↔
      regex.build options (source regex anchored pattern) = .ok isMatch := by
  unfold build
  split <;> simp_all

theorem build_of_error {pattern message : String}
    (refused : regex.build options (source regex anchored pattern) = .error message) :
    build regex anchored pattern =
      .error (.unsupportedPredicate ("LIKE '" ++ pattern ++ "': " ++ message)) := by
  rw [build, refused]

/-- What a library that is standard builds for a pattern looks for the items of the pattern. -/
theorem isMatch_iff_occurs (standard : regex.IsStandard) {pattern : String}
    {isMatch : String → Bool} (built : build regex anchored pattern = .ok isMatch)
    (text : String) :
    isMatch text = true ↔ Occurs options (items anchored pattern.toList) text.toList :=
  standard.isMatch_iff (spells_source standard pattern) (build_eq_ok_iff.1 built) text

theorem isMatch_anchored_iff (standard : regex.IsStandard) {pattern : String}
    {isMatch : String → Bool} (built : build regex true pattern = .ok isMatch) (text : String) :
    isMatch text = true ↔ CutAlong pattern.toList text.toList :=
  (isMatch_iff_occurs standard built text).trans occurs_anchored_iff

theorem isMatch_loose_iff (standard : regex.IsStandard) {pattern : String}
    {isMatch : String → Bool} (built : build regex false pattern = .ok isMatch) (text : String) :
    isMatch text = true ↔ OccurInOrder (pattern.toList.splitOn '%') text.toList :=
  (isMatch_iff_occurs standard built text).trans occurs_loose_iff

end Like

namespace RowFilter

variable {regex : Regex.Library} {scope : MatchScope} {catalog : Catalog} {table : String}
  {column : ColumnRef} {pattern : String}

/-- The place of a column that is looked at alone. -/
def columnLookedAt? (scope : MatchScope) (catalog : Catalog) (table : String)
    (column : ColumnRef) : Option Nat :=
  match scope with
  | .row => none
  | .column => catalog.columnIndex? table column.column

theorem target?_like : target? scope catalog table (.like column pattern) =
    columnLookedAt? scope catalog table column := by
  cases scope <;> rfl

/-- The filter for a pattern is made of what is built for it. -/
theorem ofPredicate_like (regex : Regex.Library) (scope : MatchScope) (catalog : Catalog)
    (table : String) (column : ColumnRef) (pattern : String) :
    ofPredicate regex scope catalog table (.like column pattern) =
      (Like.build regex (columnLookedAt? scope catalog table column).isSome pattern).map
        fun isMatch => ⟨.like isMatch, columnLookedAt? scope catalog table column⟩ := by
  simp only [ofPredicate, target?_like]
  cases Like.build regex (columnLookedAt? scope catalog table column).isSome pattern <;> rfl

/-- The filter of a condition exists if the library builds the expression for its pattern; if not,
the condition is not supported. The filter asks of the cell in a known column whether it can be cut
along the pattern, if columns are looked at; else it asks of any cell of a row whether the pieces of
the pattern occur in it in order. -/
theorem passes_like_iff {regex : Regex.Library} (standard : regex.IsStandard) (pattern : String) :
    (∀ isMatch, Like.build regex false pattern = .ok isMatch →
      ∀ text, isMatch text = true ↔
        OccurInOrder (pattern.toList.splitOn '%') text.toList) ∧
    (∀ isMatch, Like.build regex true pattern = .ok isMatch →
      ∀ text, isMatch text = true ↔ CutAlong pattern.toList text.toList) ∧
    ∀ scope catalog table column,
      let index? := columnLookedAt? scope catalog table column
      let expression := regex.build Like.options (Like.source regex index?.isSome pattern)
      (∀ message, expression = .error message →
        ofPredicate regex scope catalog table (.like column pattern) =
          .error (.unsupportedPredicate ("LIKE '" ++ pattern ++ "': " ++ message))) ∧
      ∀ isMatch, expression = .ok isMatch → ∃ filter,
        ofPredicate regex scope catalog table (.like column pattern) = .ok filter ∧
        ∀ row, filter.passes row = true ↔
          match index? with
          | some index =>
            ∃ cell, row[index]? = some cell ∧ CutAlong pattern.toList cell.display.toList
          | none =>
            ∃ cell ∈ row, OccurInOrder (pattern.toList.splitOn '%') cell.display.toList := by
  refine ⟨fun _ => Like.isMatch_loose_iff standard, fun _ => Like.isMatch_anchored_iff standard, ?_⟩
  intro scope catalog table column index? expression
  constructor
  · intro message refused
    rw [ofPredicate_like, Like.build_of_error refused]
    rfl
  · intro isMatch made
    have built : Like.build regex index?.isSome pattern = .ok isMatch :=
      Like.build_eq_ok_iff.2 made
    refine ⟨⟨.like isMatch, index?⟩, ?_, fun row => ?_⟩
    · rw [ofPredicate_like, built]
      rfl
    · cases known : index? with
      | none =>
        rw [known] at built
        simp only [passes, CellTest.holdsOfRow, List.any_eq_true,
          Like.isMatch_loose_iff standard built]
      | some index =>
        rw [known] at built
        simp only [passes, CellTest.holdsOfCell, Option.any_eq_true,
          Like.isMatch_anchored_iff standard built]

/-- In the column of names, a percent sign takes in a new line, and an underscore no cell without
letters. -/
theorem passes_like_iff_users : Regex.Library.builtin.IsStandard ∧
    ∃ filter,
      ofPredicate .builtin .column .classroom "users" (.like ⟨none, "name"⟩ "_o%N") = .ok filter ∧
      filter.passes [.integer 1, .text "Jo\nn"] = true ∧
      filter.passes [.text "Jon", .integer 1] = false := by
  have standard := Regex.Library.builtin_isStandard
  have known : columnLookedAt? .column .classroom "users" ⟨none, "name"⟩ = some 1 := by
    decide +kernel
  obtain ⟨isMatch, built⟩ : ∃ isMatch, Regex.Library.builtin.build Like.options
      (Like.source .builtin true "_o%N") = .ok isMatch :=
    Regex.exists_ok_of_isSome (by decide +kernel)
  obtain ⟨-, -, filters⟩ := passes_like_iff standard "_o%N"
  have filters := (filters .column .classroom "users" ⟨none, "name"⟩).2 isMatch
  simp only [known, Option.isSome_some] at filters
  obtain ⟨filter, made, passes⟩ := filters built
  refine ⟨standard, filter, made, (passes _).2 ⟨_, rfl, ?_⟩, ?_⟩
  · have upper : Unicode.foldCase 'N' = Unicode.foldCase 'n' := by decide +kernel
    have last : CutAlong ['N'] ['n'] := .letter (by decide) upper .nil
    have cut : CutAlong ['_', 'o', '%', 'N'] ['J', 'o', '\n', 'n'] :=
      .one 'J' (.letter (by decide) rfl (.run ['\n'] last))
    exact cut
  · rw [Bool.eq_false_iff, ne_eq, passes]
    rintro ⟨cell, found, cut⟩
    obtain rfl : Cell.integer 1 = cell := Option.some.inj found
    rw [show (Cell.integer 1).display.toList = ['1'] by decide +kernel] at cut
    cases cut with
    | one taken rest => cases rest
    | letter plain => exact absurd rfl plain.2

end RowFilter

end SqlGrader
