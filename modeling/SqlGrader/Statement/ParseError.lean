import SqlGrader.Token.Lexer

/-!
# Parse errors

Why a text is not a statement of the dialect.

Source: the errors of `SPEC_FULL.md`, section 7.
-/

set_option autoImplicit false

namespace SqlGrader

/-- What the parser was looking for when it met another token. -/
inductive Expectation where
  | token (kind : TokenKind)
  | name
  | identifier
  | literal
  | selectItem
  | predicate
  deriving DecidableEq

namespace Expectation

def description : Expectation → String
  | token kind => kind.description
  | name => "name"
  | identifier => "identifier"
  | literal => "literal"
  | selectItem => "select item"
  | predicate => "predicate"

end Expectation

/-- Why a text is not one statement. Positions are byte offsets. -/
inductive ParseError where
  | unexpectedToken (expected : Expectation) (found : TokenKind) (position : Nat)
  | unexpectedEnd
  | lexer (cause : LexError)
  | malformedLiteral (literal : String) (position : Nat)
  | unknownStatement (text : String)
  deriving DecidableEq

namespace ParseError

def message : ParseError → String
  | unexpectedToken expected found position =>
    "Unexpected token: expected " ++ expected.description ++ ", found " ++ found.description
      ++ s!" at position {position}"
  | unexpectedEnd => "Unexpected end of input"
  | lexer cause => "Lexer error: " ++ cause.message
  | malformedLiteral literal position =>
    s!"Malformed literal '{literal}' at position {position}"
  | unknownStatement text => "Unrecognized statement: " ++ text

end ParseError

end SqlGrader
