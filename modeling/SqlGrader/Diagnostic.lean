import SqlGrader.Grader
import SqlGrader.Schema.Json

/-!
# Diagnostics

Errors as terms: the name of the cause, with its parts in parentheses or braces and every text
in quotes. The command line shows errors in this form.

Source: the errors of `SPEC_FULL.md`, section 7.
-/

set_option autoImplicit false

namespace SqlGrader

/-- A cause with one text. -/
def textTerm (cause text : String) : String :=
  cause ++ "(" ++ Text.quoted text ++ ")"

/-- A cause with named parts. -/
def recordTerm (cause : String) (parts : List (String × String)) : String :=
  cause ++ " \x7b " ++ String.intercalate ", " (parts.map fun (name, part) => name ++ ": " ++ part)
    ++ " \x7d"

def ParseError.diagnostic : ParseError → String
  | unexpectedToken expected found position =>
    recordTerm "UnexpectedToken"
      [("expected", Text.quoted expected.description), ("found", found.description),
       ("position", toString position)]
  | unexpectedEnd => "UnexpectedEof"
  | lexer cause => textTerm "LexerError" cause.message
  | malformedLiteral literal position =>
    recordTerm "MalformedLiteral"
      [("literal", Text.quoted literal), ("position", toString position)]
  | unknownStatement text => textTerm "UnknownStatement" text

def ExecutionError.diagnostic : ExecutionError → String
  | unknownTable table => textTerm "UnknownTable" table
  | malformedLiteral literal => textTerm "MalformedLiteral" literal
  | unsupportedPredicate clause => textTerm "UnsupportedPredicate" clause
  | unsupportedClause clause => textTerm "UnsupportedClause" clause
  | unsupportedStatement text => textTerm "UnsupportedStatement" text
  | parse cause => "Parse(" ++ cause.diagnostic ++ ")"

def GradeError.diagnostic : GradeError → String
  | emptySchema => "EmptySchema"
  | schema cause => "Schema(" ++ cause.diagnostic ++ ")"
  | seedFailure table cause =>
    recordTerm "SeedFailure" [("table", Text.quoted table), ("source", cause.diagnostic)]
  | execution cause => "Execution(" ++ cause.diagnostic ++ ")"
  | pointsOverflow => "PointsOverflow"

def SchemaError.diagnostic : SchemaError → String
  | missingTableName => "MissingTableName"
  | noColumns => "NoColumns"
  | noPrimaryKey => "NoPrimaryKey"

def DefinitionError.diagnostic : DefinitionError → String
  | json => "Json"
  | schema rule => "Schema(" ++ rule.diagnostic ++ ")"

def SettingsError.diagnostic : SettingsError → String
  | json => "Json"
  | emptyCatalogTable table => textTerm "EmptyCatalogTable" table

end SqlGrader
