import SqlGrader.Regex.Builtin

/-!
# The built-in regular expressions are standard

A source is read as the items that it spells, and the table of a text says of each of its suffixes
whether the items take up a front of it (`covers_iff`). Main statement: the built-in library is one
that can be relied on (`builtin_isStandard`).
-/

set_option autoImplicit false

namespace SqlGrader.Regex

/-! ## Sources -/

theorem spells_escapeChar {c : Char} {source : List Char} {items : List Item}
    (rest : Spells source items) : Spells (escapeChar c ++ source) (.char c :: items) := by
  unfold escapeChar
  split
  · rename_i special
    exact .escaped special rest
  · rename_i ordinary
    exact .plain ordinary rest

theorem spells_escape (text : List Char) : Spells (text.flatMap escapeChar) (text.map .char) := by
  induction text with
  | nil => exact .nil
  | cons c text ih => exact spells_escapeChar ih

theorem items?_plain {c : Char} (ordinary : c ∉ metaCharacters) (source : List Char) :
    items? (c :: source) = (items? source).map (.char c :: ·) := by
  have other : ∀ d ∈ metaCharacters, c ≠ d := fun d special same => ordinary (same ▸ special)
  simp only [metaCharacters, List.forall_mem_cons] at other
  rw [items?, if_neg ordinary]
  all_goals simp [other]

/-- No source begins with the sign of a repetition. -/
theorem Spells.no_star {source : List Char} {items : List Item} :
    ¬ Spells ('*' :: source) items := by
  intro spelled
  cases spelled with
  | plain ordinary rest => exact ordinary (by decide)

theorem items?_of_spells {source : List Char} {items : List Item} (spelled : Spells source items) :
    items? source = some items := by
  induction spelled with
  | nil => rfl
  | plain ordinary rest ih => rw [items?_plain ordinary, ih, Option.map_some]
  | escaped special rest ih => rw [items?, if_pos special, ih, Option.map_some]
  | anyChar rest ih =>
    rw [items?, ih, Option.map_some]
    -- a repetition behind the dot would have been read with it
    rintro source rfl
    exact Spells.no_star rest
  | anyRun rest ih => rw [items?, ih, Option.map_some]
  | textStart rest ih => rw [items?, ih, Option.map_some]
  | textEnd rest ih => rw [items?, ih, Option.map_some]

/-! ## Tables -/

theorem length_charTable {takes : Seen → Bool} {text : List Seen} {table : List Bool}
    (long : table.length = text.length + 1) :
    (charTable takes text table).length = text.length + 1 := by
  simp [charTable, long]

theorem length_runTable {text : List Seen} {table : List Bool}
    (long : table.length = text.length + 1) :
    (runTable text table).length = text.length + 1 := by
  induction text generalizing table with
  | nil => simpa [runTable] using long
  | cons d text ih =>
    obtain ⟨now, table, rfl⟩ := List.exists_cons_of_length_eq_add_one long
    simpa [runTable] using ih (by simpa using long)

/-- A table has an entry for each suffix, the empty one included. -/
theorem length_suffixTable (o : Options) (atStart : Bool) (text : List Seen) (items : List Item) :
    (suffixTable o atStart text items).length = text.length + 1 := by
  induction items with
  | nil => simp [suffixTable]
  | cons item items ih =>
    cases item with
    | char c => exact length_charTable ih
    | anyChar => exact length_charTable ih
    | anyRun => exact length_runTable ih
    | textStart => simp [suffixTable]
    | textEnd => simp [suffixTable]

/-- Whether items take up a front of a text: the first entry of its table. -/
def covers (o : Options) (atStart : Bool) (items : List Item) (text : List Seen) : Bool :=
  (suffixTable o atStart text items).headD false

variable {o : Options} {atStart : Bool} {items : List Item} {text : List Seen}

theorem exists_suffixTable : ∃ others,
    suffixTable o atStart text items = covers o atStart items text :: others := by
  obtain ⟨first, others, table⟩ :=
    List.exists_cons_of_length_eq_add_one (length_suffixTable o atStart text items)
  exact ⟨others, by rw [covers, table, List.headD_cons]⟩

theorem suffixTable_nil : suffixTable o atStart [] items = [covers o atStart items []] := by
  obtain ⟨entry, table⟩ := List.length_eq_one_iff.1 (length_suffixTable o atStart [] items)
  rw [covers, table, List.headD_cons]

/-- The table of a text is that of its rest with one entry in front. -/
theorem suffixTable_cons (d : Seen) :
    suffixTable o atStart (d :: text) items =
      covers o atStart items (d :: text) :: suffixTable o false text items := by
  have longer : ∃ entry, suffixTable o atStart (d :: text) items =
      entry :: suffixTable o false text items := by
    induction items with
    | nil => exact ⟨true, rfl⟩
    | cons item items ih =>
      obtain ⟨entry, longer⟩ := ih
      obtain ⟨others, table⟩ := @exists_suffixTable o false items text
      cases item <;> simp [suffixTable, longer, table, charTable, runTable]
  obtain ⟨entry, table⟩ := longer
  rw [covers, table, List.headD_cons]

/-! ## Recursion over items and text -/

@[simp] theorem covers_nil : covers o atStart [] text = true := by
  cases text <;> rfl

@[simp] theorem covers_char_nil (c : Char) : covers o atStart (.char c :: items) [] = false := rfl

@[simp] theorem covers_char_cons (c : Char) (d : Seen) :
    covers o atStart (.char c :: items) (d :: text) =
      (d.char == o.normalized c && covers o false items text) := by
  obtain ⟨others, table⟩ := @exists_suffixTable o false items text
  rw [covers, suffixTable, suffixTable_cons, table]
  rfl

@[simp] theorem covers_anyChar_nil : covers o atStart (.anyChar :: items) [] = false := rfl

@[simp] theorem covers_anyChar_cons (d : Seen) :
    covers o atStart (.anyChar :: items) (d :: text) =
      (d.dotTakes && covers o false items text) := by
  obtain ⟨others, table⟩ := @exists_suffixTable o false items text
  rw [covers, suffixTable, suffixTable_cons, table]
  rfl

@[simp] theorem covers_anyRun_nil :
    covers o atStart (.anyRun :: items) [] = covers o atStart items [] := by
  rw [covers, suffixTable, suffixTable_nil]
  rfl

theorem covers_anyRun_cons (d : Seen) :
    covers o atStart (.anyRun :: items) (d :: text) =
      (covers o atStart items (d :: text) ||
        d.dotTakes && covers o false (.anyRun :: items) text) := by
  rw [covers, suffixTable, suffixTable_cons]
  rfl

@[simp] theorem covers_textStart :
    covers o atStart (.textStart :: items) text = (atStart && covers o atStart items text) := rfl

@[simp] theorem covers_textEnd_nil :
    covers o atStart (.textEnd :: items) [] = covers o atStart items [] := by
  rw [covers, suffixTable, suffixTable_nil]
  rfl

@[simp] theorem covers_textEnd_cons (d : Seen) :
    covers o atStart (.textEnd :: items) (d :: text) = false := rfl

/-! ## What a table says -/

theorem normalized_beq_iff {c d : Char} :
    ((o.seen d).char == o.normalized c) = true ↔ o.SameChar c d := by
  rw [beq_iff_eq, eq_comm]
  unfold Options.seen Options.normalized Options.SameChar
  split <;> rfl

theorem dotTakes_iff {d : Char} : (o.seen d).dotTakes = true ↔ o.DotTakes d := by
  simp [Options.seen, Options.DotTakes]

variable {before text : List Char}

/-- A run takes nothing, or the first character and a run behind it. -/
theorem takesFront_anyRun_cons {d : Char} :
    TakesFront o (.anyRun :: items) before (d :: text) ↔
      TakesFront o items before (d :: text) ∨
        o.DotTakes d ∧ TakesFront o (.anyRun :: items) (before ++ [d]) text := by
  rw [takesFront_anyRun_iff, takesFront_anyRun_iff]
  constructor
  · rintro ⟨run, rest, cut, takes, behind⟩
    cases run with
    | nil =>
      rw [List.nil_append] at cut
      exact .inl (by simpa [cut] using behind)
    | cons e run =>
      obtain ⟨rfl, rfl⟩ := List.cons.inj cut
      obtain ⟨first, others⟩ := List.forall_mem_cons.1 takes
      exact .inr ⟨first, run, rest, rfl, others, by simpa using behind⟩
  · rintro (behind | ⟨first, run, rest, rfl, others, behind⟩)
    · exact ⟨[], d :: text, rfl, by simp, by simpa using behind⟩
    · exact ⟨d :: run, rest, rfl, List.forall_mem_cons.2 ⟨first, others⟩, by simpa using behind⟩

theorem takesFront_anyRun_nil :
    TakesFront o (.anyRun :: items) before [] ↔ TakesFront o items before [] := by
  rw [takesFront_anyRun_iff]
  constructor
  · rintro ⟨run, rest, cut, -, behind⟩
    obtain ⟨rfl, rfl⟩ := List.nil_eq_append_iff.1 cut
    simpa using behind
  · exact fun behind => ⟨[], [], rfl, by simp, by simpa using behind⟩

theorem isEmpty_snoc {d : Char} : (before ++ [d]).isEmpty = false := by
  simp

/-- The first entry says whether the items take up a front of the text. -/
theorem covers_iff : covers o before.isEmpty items (text.map o.seen) = true ↔
    TakesFront o items before text := by
  induction items generalizing before text with
  | nil => exact iff_of_true covers_nil (.nil before text)
  | cons item items ih =>
    have behind : ∀ d : Char, ∀ text : List Char,
        covers o false items (text.map o.seen) = true ↔ TakesFront o items (before ++ [d]) text :=
      fun d text => by rw [← ih, isEmpty_snoc]
    cases item with
    | char c =>
      cases text with
      | nil => exact iff_of_false (by simp) nofun
      | cons d text =>
        rw [List.map_cons, covers_char_cons, Bool.and_eq_true, normalized_beq_iff, behind d]
        exact ⟨fun ⟨same, rest⟩ => .char same rest, fun | .char same rest => ⟨same, rest⟩⟩
    | anyChar =>
      cases text with
      | nil => exact iff_of_false (by simp) nofun
      | cons d text =>
        rw [List.map_cons, covers_anyChar_cons, Bool.and_eq_true, dotTakes_iff, behind d]
        exact ⟨fun ⟨takes, rest⟩ => .anyChar takes rest, fun | .anyChar takes rest => ⟨takes, rest⟩⟩
    | anyRun =>
      clear behind
      induction text generalizing before with
      | nil => rw [takesFront_anyRun_nil, ← ih, List.map_nil, covers_anyRun_nil]
      | cons d text longer =>
        have behind : covers o false (.anyRun :: items) (text.map o.seen) = true ↔
            TakesFront o (.anyRun :: items) (before ++ [d]) text := by
          rw [← @isEmpty_snoc before d]
          exact longer
        rw [takesFront_anyRun_cons, List.map_cons, covers_anyRun_cons, Bool.or_eq_true,
          Bool.and_eq_true, dotTakes_iff, ← List.map_cons, ih, behind]
    | textStart =>
      rw [takesFront_textStart_iff, covers_textStart, Bool.and_eq_true, List.isEmpty_iff, ih]
      exact and_congr_right fun atStart => by rw [atStart]
    | textEnd =>
      rw [takesFront_textEnd_iff]
      cases text with
      | nil => simpa using @ih before []
      | cons d text => simp

/-- One of the entries holds if the items take up a piece of the text. -/
theorem any_suffixTable_iff :
    (suffixTable o before.isEmpty (text.map o.seen) items).any id = true ↔
      ∃ run rest, text = run ++ rest ∧ TakesFront o items (before ++ run) rest := by
  induction text generalizing before with
  | nil =>
    have first := @covers_iff o items before []
    rw [List.map_nil] at first ⊢
    rw [suffixTable_nil, List.any_cons, List.any_nil, Bool.or_false, id, first]
    constructor
    · intro taken
      exact ⟨[], [], rfl, by simpa using taken⟩
    · rintro ⟨run, rest, cut, taken⟩
      obtain ⟨rfl, rfl⟩ := List.nil_eq_append_iff.1 cut
      simpa using taken
  | cons d text ih =>
    have later := @ih (before ++ [d])
    rw [isEmpty_snoc] at later
    rw [List.map_cons, suffixTable_cons, List.any_cons, Bool.or_eq_true, later, ← List.map_cons,
      id, covers_iff]
    constructor
    · rintro (taken | ⟨run, rest, rfl, taken⟩)
      · exact ⟨[], d :: text, rfl, by simpa using taken⟩
      · exact ⟨d :: run, rest, rfl, by simpa using taken⟩
    · rintro ⟨run, rest, cut, taken⟩
      cases run with
      | nil =>
        rw [List.nil_append] at cut
        exact .inl (by simpa [cut] using taken)
      | cons e run =>
        obtain ⟨rfl, rfl⟩ := List.cons.inj cut
        exact .inr ⟨run, rest, rfl, by simpa using taken⟩

theorem search_iff {text : String} : search o items text = true ↔ Occurs o items text.toList :=
  @any_suffixTable_iff o items [] text.toList

theorem Library.builtin_isStandard : builtin.IsStandard where
  escape_spells text := by
    rw [builtin, String.toList_ofList]
    exact spells_escape text.toList
  isMatch_iff {o source items isMatch} spelled built text := by
    simp only [builtin, items?_of_spells spelled] at built
    split at built
    · cases built
    · cases built
      exact search_iff

/-- Matchers cannot be compared, but it can be decided whether there is one. -/
theorem exists_ok_of_isSome {ε α : Type} {built : Except ε α}
    (builds : built.toOption.isSome = true) : ∃ isMatch, built = .ok isMatch := by
  cases built with
  | ok isMatch => exact ⟨isMatch, rfl⟩
  | error message => cases builds

end SqlGrader.Regex
