import SqlGrader.Json.Value

/-!
# Writing JSON

A value as text, either without any blanks or with one item a line. Strings escape the quote,
the backslash and control characters, and nothing else.
-/

set_option autoImplicit false

namespace SqlGrader.Json

def writeChar (c : Char) : List Char :=
  if c = '"' then ['\\', '"']
  else if c = '\\' then ['\\', '\\']
  else if c = '\x08' then ['\\', 'b']
  else if c = '\x0c' then ['\\', 'f']
  else if c = '\n' then ['\\', 'n']
  else if c = '\r' then ['\\', 'r']
  else if c = '\t' then ['\\', 't']
  else if c.toNat < 0x20 then
    ['\\', 'u', '0', '0', Nat.digitChar (c.toNat / 16), Nat.digitChar (c.toNat % 16)]
  else [c]

def writeString (text : List Char) : List Char :=
  '"' :: text.flatMap writeChar ++ ['"']

/-- A string of a value. One that is no text is written as an empty string. -/
def writeText (text? : Option String) : List Char :=
  writeString ((text?.map String.toList).getD [])

namespace Value

mutual

def compact : Value → List Char
  | null => ['n', 'u', 'l', 'l']
  | bool true => ['t', 'r', 'u', 'e']
  | bool false => ['f', 'a', 'l', 's', 'e']
  | number numeral => numeral.toList
  | string text? => writeText text?
  | array items => '[' :: compactItems items ++ [']']
  | object members => '\x7b' :: compactMembers members ++ ['\x7d']

def compactItems : List Value → List Char
  | [] => []
  | [v] => compact v
  | v :: rest => compact v ++ ',' :: compactItems rest

def compactMembers : List (Option String × Value) → List Char
  | [] => []
  | [(key?, v)] => writeText key? ++ ':' :: compact v
  | (key?, v) :: rest => writeText key? ++ ':' :: compact v ++ ',' :: compactMembers rest

end

/-- A new line with two blanks for each level of nesting. -/
def newLine (level : Nat) : List Char :=
  '\n' :: List.replicate (2 * level) ' '

mutual

/-- A value with one item a line, at a level of nesting. An empty array or object takes up no
lines of its own. -/
def pretty (level : Nat) : Value → List Char
  | array [] => ['[', ']']
  | array items => '[' :: prettyItems (level + 1) items ++ newLine level ++ [']']
  | object [] => ['\x7b', '\x7d']
  | object members => '\x7b' :: prettyMembers (level + 1) members ++ newLine level ++ ['\x7d']
  | null => compact null
  | bool b => compact (bool b)
  | number numeral => compact (number numeral)
  | string text? => compact (string text?)

def prettyItems (level : Nat) : List Value → List Char
  | [] => []
  | [v] => newLine level ++ pretty level v
  | v :: rest => newLine level ++ pretty level v ++ ',' :: prettyItems level rest

def prettyMembers (level : Nat) : List (Option String × Value) → List Char
  | [] => []
  | [(key?, v)] => newLine level ++ writeText key? ++ [':', ' '] ++ pretty level v
  | (key?, v) :: rest =>
    newLine level ++ writeText key? ++ [':', ' '] ++ pretty level v
      ++ ',' :: prettyMembers level rest

end

def render (v : Value) : String :=
  String.ofList v.compact

/-- A value as text with one item a line. -/
def renderPretty (v : Value) : String :=
  String.ofList (v.pretty 0)

end Value

end SqlGrader.Json
