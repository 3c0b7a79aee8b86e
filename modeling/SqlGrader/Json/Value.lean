import SqlGrader.Json.Numeral

/-!
# JSON values

The tree of a JSON text. Members keep their order and their duplicates, and numbers stay as
they are written. A string is `none` if it escapes one half of a surrogate pair without the
other: such a string is well formed, but it is no text.
-/

set_option autoImplicit false

namespace SqlGrader.Json

inductive Value where
  | null
  | bool (value : Bool)
  | number (numeral : String)
  | string (text? : Option String)
  | array (items : List Value)
  | object (members : List (Option String × Value))

namespace Value

def text (s : String) : Value :=
  string (some s)

/-- An object whose keys are texts. -/
def record (members : List (String × Value)) : Value :=
  object (members.map fun (key, value) => (some key, value))

def number? (numeral : String) : Option Number :=
  (Numeral.read? numeral.toList).bind Numeral.value?

def ofInt (i : Int) : Value :=
  number (String.ofList (Text.integerText i))

def ofNat (n : Nat) : Value :=
  ofInt n

/-- A floating-point number. The texts have no form for one that is not finite. -/
def ofBinary64 (x : Binary64) : Value :=
  if x.isFinite then number (String.ofList (NumberFormat.json.text x)) else null

mutual

/-- Whether every string is a text, every number is in range, and arrays and objects are not
nested beyond a depth. -/
def isReadable (depth : Nat) : Value → Bool
  | null | bool _ => true
  | number numeral => (number? numeral).isSome
  | string text? => text?.isSome
  | array items => 0 < depth && itemsReadable (depth - 1) items
  | object members => 0 < depth && membersReadable (depth - 1) members

def itemsReadable (depth : Nat) : List Value → Bool
  | [] => true
  | v :: rest => isReadable depth v && itemsReadable depth rest

def membersReadable (depth : Nat) : List (Option String × Value) → Bool
  | [] => true
  | (key?, v) :: rest => key?.isSome && isReadable depth v && membersReadable depth rest

end

end Value

end SqlGrader.Json
