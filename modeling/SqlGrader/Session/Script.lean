import SqlGrader.Text.Lines
import SqlGrader.Unicode.WhiteSpace

/-!
# Scripts

A script is cut into statements at every semicolon. Lines that are comments are dropped, and so
are statements of which nothing is left.

Source: `split_script`; `SPEC_FULL.md`, section 6.
-/

set_option autoImplicit false

namespace SqlGrader.Script

/-- Whether a line holds nothing but a comment. -/
def isCommentLine (line : List Char) : Bool :=
  ['-', '-'].isPrefixOf (Unicode.trimStart line)

/-- A piece of a script without its comment lines and the white space at its ends. -/
def cleaned (piece : List Char) : List Char :=
  Unicode.trim (Text.joined ['\n'] ((Text.lines piece).filter fun line => !isCommentLine line))

def split (script : String) : List String :=
  (((Text.pieces ';' script.toList).map cleaned).filter (· ≠ [])).map String.ofList

end SqlGrader.Script
