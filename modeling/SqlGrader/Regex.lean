import SqlGrader.Unicode.CaseFolding

/-!
# Regular expressions

The library of regular expressions is a parameter of the queries. It makes sources of literal texts
and builds matchers of sources, which it may refuse to do. What is relied on is stated for the
sources that are made here, which are sequences of characters, dots and anchors: an escaped text
spells its characters, and a matcher searches a text for what its source spells.
-/

set_option autoImplicit false

namespace SqlGrader.Regex

structure Options where
  caseInsensitive : Bool
  dotMatchesNewLine : Bool

structure Library where
  escape : String → String
  /-- The matcher of a source, or the message of an error. -/
  build : Options → String → Except String (String → Bool)

/-! ## Sources -/

/-- The elements of sources. -/
inductive Item where
  | char (c : Char)
  | anyChar
  | anyRun
  | textStart
  | textEnd
  deriving DecidableEq

/-- The characters that stand for themselves behind a backslash only. -/
def metaCharacters : List Char :=
  ['\\', '.', '+', '*', '?', '(', ')', '|', '[', ']', '{', '}', '^', '$', '#', '&', '-', '~']

/-- A source spells items. -/
inductive Spells : List Char → List Item → Prop where
  | nil : Spells [] []
  | plain {c : Char} {source : List Char} {items : List Item} (ordinary : c ∉ metaCharacters)
      (rest : Spells source items) : Spells (c :: source) (.char c :: items)
  | escaped {c : Char} {source : List Char} {items : List Item} (special : c ∈ metaCharacters)
      (rest : Spells source items) : Spells ('\\' :: c :: source) (.char c :: items)
  | anyChar {source : List Char} {items : List Item} (rest : Spells source items) :
      Spells ('.' :: source) (.anyChar :: items)
  | anyRun {source : List Char} {items : List Item} (rest : Spells source items) :
      Spells ('.' :: '*' :: source) (.anyRun :: items)
  | textStart {source : List Char} {items : List Item} (rest : Spells source items) :
      Spells ('^' :: source) (.textStart :: items)
  | textEnd {source : List Char} {items : List Item} (rest : Spells source items) :
      Spells ('$' :: source) (.textEnd :: items)

theorem Spells.append {source source' : List Char} {items items' : List Item}
    (first : Spells source items) (second : Spells source' items') :
    Spells (source ++ source') (items ++ items') := by
  induction first with
  | nil => exact second
  | plain ordinary rest ih => exact .plain ordinary ih
  | escaped special rest ih => exact .escaped special ih
  | anyChar rest ih => exact .anyChar ih
  | anyRun rest ih => exact .anyRun ih
  | textStart rest ih => exact .textStart ih
  | textEnd rest ih => exact .textEnd ih

/-! ## Matches -/

namespace Options

/-- Two characters count as one. -/
def SameChar (o : Options) (c d : Char) : Prop :=
  if o.caseInsensitive then Unicode.foldCase c = Unicode.foldCase d else c = d

/-- A dot takes a character. -/
def DotTakes (o : Options) (c : Char) : Prop :=
  o.dotMatchesNewLine ∨ c ≠ '\n'

end Options

/-- Items take up a front of a text, which stands behind the text before it. -/
inductive TakesFront (o : Options) : List Item → List Char → List Char → Prop where
  | nil (before text : List Char) : TakesFront o [] before text
  | char {c d : Char} {items : List Item} {before text : List Char} (same : o.SameChar c d)
      (rest : TakesFront o items (before ++ [d]) text) :
      TakesFront o (.char c :: items) before (d :: text)
  | anyChar {d : Char} {items : List Item} {before text : List Char} (takes : o.DotTakes d)
      (rest : TakesFront o items (before ++ [d]) text) :
      TakesFront o (.anyChar :: items) before (d :: text)
  | anyRun {run text : List Char} {items : List Item} {before : List Char}
      (takes : ∀ d ∈ run, o.DotTakes d) (rest : TakesFront o items (before ++ run) text) :
      TakesFront o (.anyRun :: items) before (run ++ text)
  | textStart {items : List Item} {text : List Char} (rest : TakesFront o items [] text) :
      TakesFront o (.textStart :: items) [] text
  | textEnd {items : List Item} {before : List Char} (rest : TakesFront o items before []) :
      TakesFront o (.textEnd :: items) before []

section

variable {o : Options} {items : List Item} {before text : List Char}

theorem takesFront_char_iff {c : Char} : TakesFront o (.char c :: items) before text ↔
    ∃ d rest, text = d :: rest ∧ o.SameChar c d ∧ TakesFront o items (before ++ [d]) rest := by
  constructor
  · intro taken
    cases taken with
    | char same rest => exact ⟨_, _, rfl, same, rest⟩
  · rintro ⟨d, rest, rfl, same, behind⟩
    exact .char same behind

theorem takesFront_anyChar_iff : TakesFront o (.anyChar :: items) before text ↔
    ∃ d rest, text = d :: rest ∧ o.DotTakes d ∧ TakesFront o items (before ++ [d]) rest := by
  constructor
  · intro taken
    cases taken with
    | anyChar takes rest => exact ⟨_, _, rfl, takes, rest⟩
  · rintro ⟨d, rest, rfl, takes, behind⟩
    exact .anyChar takes behind

theorem takesFront_anyRun_iff : TakesFront o (.anyRun :: items) before text ↔
    ∃ run rest, text = run ++ rest ∧ (∀ d ∈ run, o.DotTakes d) ∧
      TakesFront o items (before ++ run) rest := by
  constructor
  · intro taken
    cases taken with
    | anyRun takes rest => exact ⟨_, _, rfl, takes, rest⟩
  · rintro ⟨run, rest, rfl, takes, behind⟩
    exact .anyRun takes behind

theorem takesFront_textStart_iff : TakesFront o (.textStart :: items) before text ↔
    before = [] ∧ TakesFront o items [] text := by
  constructor
  · intro taken
    cases taken with
    | textStart rest => exact ⟨rfl, rest⟩
  · rintro ⟨rfl, rest⟩
    exact .textStart rest

theorem takesFront_textEnd_iff : TakesFront o (.textEnd :: items) before text ↔
    text = [] ∧ TakesFront o items before [] := by
  constructor
  · intro taken
    cases taken with
    | textEnd rest => exact ⟨rfl, rest⟩
  · rintro ⟨rfl, rest⟩
    exact .textEnd rest

end

/-- Items take up a piece of a text. -/
def Occurs (o : Options) (items : List Item) (text : List Char) : Prop :=
  ∃ before rest, text = before ++ rest ∧ TakesFront o items before rest

/-- What is relied on of a library: escaping makes a text a literal, and what is built has the
standard meaning. Nothing is said of the sources that it refuses. -/
structure Library.IsStandard (library : Library) : Prop where
  escape_spells : ∀ text, Spells (library.escape text).toList (text.toList.map .char)
  isMatch_iff : ∀ {o : Options} {source : String} {items : List Item} {isMatch : String → Bool},
    Spells source.toList items → library.build o source = .ok isMatch →
      ∀ text, isMatch text = true ↔ Occurs o items text.toList

end SqlGrader.Regex
