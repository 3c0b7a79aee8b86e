import SqlGrader.Regex

/-!
# The built-in regular expressions

A library that knows the sources that are made here. A matcher keeps no stack of cuts: it goes
through the items from the last to the first with a table that says for each suffix of the text
whether the items take up a front of it. An expression that would be too large when compiled is
refused.
-/

set_option autoImplicit false

namespace SqlGrader.Regex

def escapeChar (c : Char) : List Char :=
  if c ∈ metaCharacters then ['\\', c] else [c]

/-- The items that a source spells. -/
def items? : List Char → Option (List Item)
  | [] => some []
  | '^' :: source => (items? source).map (.textStart :: ·)
  | '$' :: source => (items? source).map (.textEnd :: ·)
  | '.' :: '*' :: source => (items? source).map (.anyRun :: ·)
  | '.' :: source => (items? source).map (.anyChar :: ·)
  | '\\' :: c :: source =>
    if c ∈ metaCharacters then (items? source).map (.char c :: ·) else none
  | c :: source => if c ∈ metaCharacters then none else (items? source).map (.char c :: ·)

/-! ## Tables -/

/-- A character of a text in the form in which it is compared, and whether a dot takes it. -/
structure Seen where
  char : Char
  dotTakes : Bool

namespace Options

def normalized (o : Options) (c : Char) : Char :=
  if o.caseInsensitive then Unicode.foldCase c else c

def seen (o : Options) (c : Char) : Seen :=
  ⟨o.normalized c, o.dotMatchesNewLine || c != '\n'⟩

end Options

/-- The table of a run before items, from that of the items. -/
def runTable : List Seen → List Bool → List Bool
  | d :: text, now :: table =>
    let later := runTable text table
    (now || d.dotTakes && later.headD false) :: later
  | _, table => table

/-- The table of one character before items, from that of the items. -/
def charTable (takes : Seen → Bool) (text : List Seen) (table : List Bool) : List Bool :=
  List.zipWith (fun d later => takes d && later) text (table.drop 1) ++ [false]

/-- For each suffix of a text, the longest first, whether items take up a front of it. Only the
longest may stand at the start of the whole text. -/
def suffixTable (o : Options) (atStart : Bool) (text : List Seen) : List Item → List Bool
  | [] => text.map (fun _ => true) ++ [true]
  | .char c :: items =>
    let c := o.normalized c
    charTable (·.char == c) text (suffixTable o atStart text items)
  | .anyChar :: items => charTable (·.dotTakes) text (suffixTable o atStart text items)
  | .anyRun :: items => runTable text (suffixTable o atStart text items)
  | .textStart :: items =>
    (atStart && (suffixTable o atStart text items).headD false) :: text.map (fun _ => false)
  | .textEnd :: items =>
    text.map (fun _ => false) ++ [(suffixTable o atStart text items).getLastD false]

def search (o : Options) (items : List Item) (text : String) : Bool :=
  (suffixTable o true (text.toList.map o.seen) items).any id

/-! ## The size limit -/

/-- The number of bytes that a compiled expression may take. -/
def sizeLimit : Nat := 10 <<< 20

/-- About as many bytes as a character of a source adds to the compiled expression. -/
def charSize (c : Char) : Nat :=
  if c = '.' then 416 else if c = '*' then 40 else 64

def compiledSize (source : List Char) : Nat :=
  source.foldl (fun size c => size + charSize c) 0

namespace Library

/-- The library of the programs. -/
def builtin : Library where
  escape text := String.ofList (text.toList.flatMap escapeChar)
  build o source :=
    if sizeLimit < compiledSize source.toList then
      .error s!"Compiled regex exceeds size limit of {sizeLimit} bytes."
    else
      match items? source.toList with
      | some items => .ok (search o items)
      | none => .error "regex parse error"

end Library

end SqlGrader.Regex
