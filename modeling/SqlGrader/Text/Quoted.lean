import SqlGrader.Unicode.Unprintable

/-!
# Quoted text in messages

A text in a message stands between quotes on one line: what would not show is written as an
escape, and so is the quote itself.
-/

set_option autoImplicit false

namespace SqlGrader.Text

/-- The written form of one character between quotes of a given kind. -/
def quotedChar (quote c : Char) : List Char :=
  if c = '\x00' then ['\\', '0']
  else if c = '\t' then ['\\', 't']
  else if c = '\r' then ['\\', 'r']
  else if c = '\n' then ['\\', 'n']
  else if c = '\\' then ['\\', '\\']
  else if c = quote then ['\\', quote]
  else if Unicode.isPrintable c then [c]
  else ['\\', 'u', '\x7b'] ++ Nat.toDigits 16 c.toNat ++ ['\x7d']

def quoted (text : String) : String :=
  String.ofList ('"' :: text.toList.flatMap (quotedChar '"') ++ ['"'])

def quotedSymbol (c : Char) : String :=
  String.ofList ('\'' :: quotedChar '\'' c ++ ['\''])

end SqlGrader.Text
