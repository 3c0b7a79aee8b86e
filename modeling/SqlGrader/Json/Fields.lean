import SqlGrader.Json.Value

/-!
# Taking JSON values apart

Readers from values to what they stand for; each returns `none` for a value of another shape. A
record is written as an object, or as an array of its fields in their order.
-/

set_option autoImplicit false

namespace SqlGrader.Json.Value

def asText? : Value → Option String
  | string text? => text?
  | _ => none

def asBool? : Value → Option Bool
  | bool b => some b
  | _ => none

/-- A natural number of 32 bits, written as an integer. -/
def asWord? : Value → Option Nat
  | number numeral =>
    match number? numeral with
    | some (.natural n) => if n < UInt32.size then some n else none
    | _ => none
  | _ => none

/-- An array of values that can all be read. -/
def asList? {α : Type} (read : Value → Option α) : Value → Option (List α)
  | array items => items.mapM read
  | _ => none

/-- A name of an alternative: a text, or an object with that one key and null. -/
def asName? : Value → Option String
  | string text? => text?
  | object [(some name, null)] => some name
  | _ => none

/-- The keys of the members, if they are all texts. -/
def keys? (members : List (Option String × Value)) : Option (List String) :=
  members.mapM (·.1)

/-- The values of the named fields, in the order of the names. An object may lack fields and
may have others, but none of the named ones twice; an array may end early. -/
def fields? (names : List String) : Value → Option (List (Option Value))
  | array items =>
    if items.length ≤ names.length then
      some (items.map some ++ List.replicate (names.length - items.length) none)
    else none
  | object members =>
    match keys? members with
    | none => none
    | some keys =>
      if names.all fun name => keys.count name ≤ 1 then
        some (names.map fun name => members.lookup (some name))
      else none
  | _ => none

/-- A field that has to be there. -/
def required {α : Type} (read : Value → Option α) (field? : Option Value) : Option α :=
  field?.bind read

/-- A field with a value of its own when it is missing. -/
def optional {α : Type} (default : α) (read : Value → Option α) : Option Value → Option α
  | none => some default
  | some v => read v

end SqlGrader.Json.Value
