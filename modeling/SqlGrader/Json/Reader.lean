import SqlGrader.Json.Value

/-!
# Reading JSON

A text is cut into signs and scalars, which a machine with a stack of open arrays and objects
puts together. Nothing is checked but the grammar: how deep a value may be nested, and whether
its strings and numbers can be used, is up to whoever takes it apart.
-/

set_option autoImplicit false

namespace SqlGrader.Json

/-- A sign of the grammar, or a value without parts. -/
inductive Lexeme where
  | openArray | closeArray | openObject | closeObject | comma | colon
  | scalar (value : Value)

def isBlank (c : Char) : Bool :=
  c = ' ' || c = '\n' || c = '\t' || c = '\r'

/-! ## Strings -/

def hexDigit? (c : Char) : Option Nat :=
  if '0' ≤ c ∧ c ≤ '9' then some (c.toNat - '0'.toNat)
  else if 'a' ≤ c ∧ c ≤ 'f' then some (c.toNat - 'a'.toNat + 10)
  else if 'A' ≤ c ∧ c ≤ 'F' then some (c.toNat - 'A'.toNat + 10)
  else none

def hexUnit? (a b c d : Char) : Option Nat := do
  return ((← hexDigit? a) * 16 + (← hexDigit? b)) * 256 + (← hexDigit? c) * 16 + (← hexDigit? d)

/-- The character that a letter after a backslash stands for. -/
def escaped? : Char → Option Char
  | '"' => some '"'
  | '\\' => some '\\'
  | '/' => some '/'
  | 'b' => some '\x08'
  | 'f' => some '\x0c'
  | 'n' => some '\n'
  | 'r' => some '\r'
  | 't' => some '\t'
  | _ => none

/-- The code points up to the closing quote, among them halves of surrogate pairs, and what
follows. -/
def readUnits? : List Char → Option (List Nat × List Char)
  | [] => none
  | c :: rest =>
    if c = '"' then some ([], rest)
    else if c = '\\' then
      match rest with
      | 'u' :: h₁ :: h₂ :: h₃ :: h₄ :: rest =>
        match hexUnit? h₁ h₂ h₃ h₄, readUnits? rest with
        | some unit, some (units, rest) => some (unit :: units, rest)
        | _, _ => none
      | e :: rest =>
        match escaped? e, readUnits? rest with
        | some d, some (units, rest) => some (d.toNat :: units, rest)
        | _, _ => none
      | [] => none
    else if c.toNat < 0x20 then none
    else (readUnits? rest).map fun (units, rest) => (c.toNat :: units, rest)

/-- The first half of a surrogate pair. -/
def isHighHalf (n : Nat) : Bool :=
  0xD800 ≤ n && n < 0xDC00

/-- The second half of a surrogate pair. -/
def isLowHalf (n : Nat) : Bool :=
  0xDC00 ≤ n && n < 0xE000

/-- The characters of code points in which each surrogate pair stands for one character;
`none` if a half stands alone. -/
def joinHalves? : List Nat → Option (List Char)
  | [] => some []
  | [n] => if isHighHalf n || isLowHalf n then none else some [Char.ofNat n]
  | n :: m :: rest =>
    if isHighHalf n then
      if isLowHalf m then
        (joinHalves? rest).map (Char.ofNat (0x10000 + (n - 0xD800) * 0x400 + (m - 0xDC00)) :: ·)
      else none
    else if isLowHalf n then none
    else (joinHalves? (m :: rest)).map (Char.ofNat n :: ·)

/-! ## Lexemes -/

/-- The lexeme at the front of a text that does not begin with a blank, and what follows. -/
def nextLexeme? (c : Char) (rest : List Char) : Option (Lexeme × List Char) :=
  match c, rest with
  | '[', rest => some (.openArray, rest)
  | ']', rest => some (.closeArray, rest)
  | '\x7b', rest => some (.openObject, rest)
  | '\x7d', rest => some (.closeObject, rest)
  | ',', rest => some (.comma, rest)
  | ':', rest => some (.colon, rest)
  | 'n', 'u' :: 'l' :: 'l' :: rest => some (.scalar .null, rest)
  | 't', 'r' :: 'u' :: 'e' :: rest => some (.scalar (.bool true), rest)
  | 'f', 'a' :: 'l' :: 's' :: 'e' :: rest => some (.scalar (.bool false), rest)
  | '"', rest =>
    (readUnits? rest).map fun (units, rest) =>
      (.scalar (.string ((joinHalves? units).map String.ofList)), rest)
  | c, rest =>
    let numeral := c :: rest.takeWhile Numeral.isNumeralChar
    if (Numeral.read? numeral).isSome then
      some (.scalar (.number (String.ofList numeral)), rest.dropWhile Numeral.isNumeralChar)
    else none

theorem length_of_readUnits? {cs : List Char} {units : List Nat} {rest : List Char}
    (h : readUnits? cs = some (units, rest)) : rest.length ≤ cs.length := by
  fun_induction readUnits? cs generalizing units rest with
  | case1 => cases h
  | case2 => cases h; simp
  | case3 h₁ h₂ h₃ h₄ cs unit units' last hread _ _ ih =>
    cases h
    have := ih hread
    simp only [List.length_cons]
    omega
  | case4 => cases h
  | case5 e cs _ d units' last hread _ _ ih =>
    cases h
    have := ih hread
    simp only [List.length_cons]
    omega
  | case6 => cases h
  | case7 => cases h
  | case8 => cases h
  | case9 c cs _ _ _ ih =>
    obtain ⟨⟨units', last⟩, hread, heq⟩ := Option.map_eq_some_iff.1 h
    cases heq
    exact Nat.le_succ_of_le (ih hread)

theorem length_of_nextLexeme? {c : Char} {cs : List Char} {lexeme : Lexeme} {rest : List Char}
    (h : nextLexeme? c cs = some (lexeme, rest)) : rest.length ≤ cs.length := by
  unfold nextLexeme? at h
  split at h
  case h_10 =>
    obtain ⟨⟨units, last⟩, hread, heq⟩ := Option.map_eq_some_iff.1 h
    cases heq
    exact length_of_readUnits? hread
  case h_11 =>
    simp only [Option.ite_none_right_eq_some, Option.some.injEq, Prod.mk.injEq] at h
    rw [← h.2.2]
    exact (List.dropWhile_sublist _).length_le
  all_goals
    cases h
    simp only [List.length_cons, Nat.le_refl]
  all_goals omega

def lexemes? : List Char → Option (List Lexeme)
  | [] => some []
  | c :: cs =>
    if isBlank c then lexemes? cs
    else
      match h : nextLexeme? c cs with
      | none => none
      | some (lexeme, rest) =>
        have : rest.length ≤ cs.length := length_of_nextLexeme? h
        (lexemes? rest).map (lexeme :: ·)
termination_by cs => cs.length

/-! ## Values -/

/-- An array or object that is not closed yet, with what it holds so far in reverse order. -/
inductive Frame where
  | array (items : List Value)
  | object (members : List (Option String × Value)) (key? : Option String)

inductive Phase where
  | value
  /-- The first item of an array, or its end. -/
  | itemOrClose
  | key (members : List (Option String × Value))
  /-- The first key of an object, or its end. -/
  | keyOrClose
  | colon (members : List (Option String × Value)) (key? : Option String)
  /-- What follows a whole value. -/
  | after (value : Value)

/-- The machine: what is open, the innermost first, and what may come next. -/
structure Machine where
  frames : List Frame
  phase : Phase

namespace Machine

def begin (frames : List Frame) : Lexeme → Option Machine
  | .scalar v => some ⟨frames, .after v⟩
  | .openArray => some ⟨.array [] :: frames, .itemOrClose⟩
  | .openObject => some ⟨frames, .keyOrClose⟩
  | _ => none

/-- A key of an object that holds some members already. -/
def takeKey (frames : List Frame) (members : List (Option String × Value)) :
    Lexeme → Option Machine
  | .scalar (.string key?) => some ⟨frames, .colon members key?⟩
  | _ => none

/-- The machine after one more lexeme; `none` if that lexeme cannot come here. -/
def step (m : Machine) (lexeme : Lexeme) : Option Machine :=
  match m.phase with
  | .value => begin m.frames lexeme
  | .itemOrClose =>
    match m.frames, lexeme with
    | .array _ :: frames, .closeArray => some ⟨frames, .after (.array [])⟩
    | frames, lexeme => begin frames lexeme
  | .key members => takeKey m.frames members lexeme
  | .keyOrClose =>
    match lexeme with
    | .closeObject => some ⟨m.frames, .after (.object [])⟩
    | lexeme => takeKey m.frames [] lexeme
  | .colon members key? =>
    match lexeme with
    | .colon => some ⟨.object members key? :: m.frames, .value⟩
    | _ => none
  | .after v =>
    match m.frames, lexeme with
    | .array items :: frames, .comma => some ⟨.array (v :: items) :: frames, .value⟩
    | .array items :: frames, .closeArray => some ⟨frames, .after (.array (v :: items).reverse)⟩
    | .object members key? :: frames, .comma => some ⟨frames, .key ((key?, v) :: members)⟩
    | .object members key? :: frames, .closeObject =>
      some ⟨frames, .after (.object ((key?, v) :: members).reverse)⟩
    | _, _ => none

end Machine

/-- Reads a text as one value with nothing but blanks around it. -/
def parse? (text : String) : Option Value :=
  match (lexemes? text.toList).bind (List.foldlM Machine.step ⟨[], .value⟩) with
  | some ⟨[], .after v⟩ => some v
  | _ => none

end SqlGrader.Json
