import SqlGrader.Execution
import SqlGrader.Regex

/-!
# LIKE patterns

A pattern is translated into a regular expression: percent signs into runs, and the texts between
them into literals. In the anchored form the expression has to cover the whole text, and an
underscore stands for any one character; in the loose form it may match anywhere, and an underscore
is a character like others.

Source: `like_regex`; `SPEC_FULL.md`, section 4.2.
-/

set_option autoImplicit false

namespace SqlGrader.Like

/-- What a character that is no part of a literal is translated into. -/
def wildcard? (anchored : Bool) (c : Char) : Option String :=
  if c = '%' then some ".*"
  else if c = '_' ∧ anchored then some "."
  else none

/-- The source so far, and the literal behind it that is not yet escaped. -/
structure Translation where
  source : String
  literal : String

/-- Moves the literal into the source. -/
def Translation.flush (regex : Regex.Library) : Translation → String
  | ⟨source, literal⟩ => source ++ regex.escape literal

def translate (regex : Regex.Library) (anchored : Bool) (t : Translation) (c : Char) :
    Translation :=
  match wildcard? anchored c with
  | some wildcard => ⟨t.flush regex ++ wildcard, ""⟩
  | none => ⟨t.source, t.literal.push c⟩

/-- The source of the expression for a pattern. -/
def source (regex : Regex.Library) (anchored : Bool) (pattern : String) : String :=
  let start := if anchored then "^" else ""
  let translated := pattern.toList.foldl (translate regex anchored) ⟨start, ""⟩
  translated.flush regex ++ if anchored then "$" else ""

/-- Letters match without regard to case, and wildcards take new lines. -/
def options : Regex.Options where
  caseInsensitive := true
  dotMatchesNewLine := true

def build (regex : Regex.Library) (anchored : Bool) (pattern : String) :
    Except ExecutionError (String → Bool) :=
  match regex.build options (source regex anchored pattern) with
  | .ok isMatch => .ok isMatch
  | .error message => .error (.unsupportedPredicate ("LIKE '" ++ pattern ++ "': " ++ message))

end SqlGrader.Like
