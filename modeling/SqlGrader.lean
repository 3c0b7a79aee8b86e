import SqlGrader.Unicode.WhiteSpace
import SqlGrader.Unicode.Alphabetic
import SqlGrader.Unicode.LowerCase
import SqlGrader.Unicode.CaseFolding
import SqlGrader.Unicode.Unprintable
import SqlGrader.Binary64.Basic
import SqlGrader.Text.Numeral
import SqlGrader.Binary64.Decimal
import SqlGrader.Binary64.Shortest
import SqlGrader.Binary64.Format
import SqlGrader.Text.Quoted
import SqlGrader.Text.Lines
import SqlGrader.Cell
import SqlGrader.Text.Bytes
import SqlGrader.Token
import SqlGrader.Token.Lexer
import SqlGrader.Statement
import SqlGrader.Statement.ParseError
import SqlGrader.Statement.Parser
import SqlGrader.Store
import SqlGrader.Catalog
import SqlGrader.Execution
import SqlGrader.Regex
import SqlGrader.Regex.Builtin
import SqlGrader.Like
import SqlGrader.Plan
import SqlGrader.Plan.RowFilter
import SqlGrader.Plan.Evaluation
import SqlGrader.Session.Script
import SqlGrader.Session
import SqlGrader.Json.Numeral
import SqlGrader.Json.Value
import SqlGrader.Json.Reader
import SqlGrader.Json.Writer
import SqlGrader.Json.Fields
import SqlGrader.Cell.Json
import SqlGrader.Schema
import SqlGrader.Schema.Json
import SqlGrader.Problem
import SqlGrader.Problem.Json
import SqlGrader.Problem.Builtin
import SqlGrader.Score
import SqlGrader.Report
import SqlGrader.Statement.Insertion
import SqlGrader.Settings
import SqlGrader.Grader
import SqlGrader.Plan.ResultJson
import SqlGrader.Rendering.TextTable
import SqlGrader.Rendering.Csv
import SqlGrader.Rendering.Report
import SqlGrader.CommandLine.Arguments
import SqlGrader.Diagnostic
import SqlGrader.CommandLine.Program
import SqlGrader.Main
import SqlGrader.Proofs.Binary64.Rounding
import SqlGrader.Proofs.Text.DecimalDigits
import SqlGrader.Proofs.Text.LongestFront
import SqlGrader.Proofs.Binary64.ReadBack
import SqlGrader.Proofs.Session.CommentLines
import SqlGrader.Proofs.Statement.Reading
import SqlGrader.Proofs.Unicode.CharacterClasses
import SqlGrader.Proofs.Token.Span
import SqlGrader.Proofs.Token.Lexing
import SqlGrader.Proofs.Statement.Grammar
import SqlGrader.Proofs.Token.Numbers
import SqlGrader.Proofs.Statement.LiteralText
import SqlGrader.Proofs.Unicode.AsciiLowerCase
import SqlGrader.Proofs.Session.InsertedRows
import SqlGrader.Proofs.Session.Leniency
import SqlGrader.Proofs.Session.PlainSpans
import SqlGrader.Proofs.Token.Trimming
import SqlGrader.Proofs.Session.StrippedSpans
import SqlGrader.Proofs.Session.ScriptCut
import SqlGrader.Proofs.Statement.SingleStatement
import SqlGrader.Proofs.Plan.Answers
import SqlGrader.Proofs.Session.LenientQueries
import SqlGrader.Proofs.Unicode.LowerCaseTwice
import SqlGrader.Proofs.Session.History
import SqlGrader.Proofs.Grader.Isolation
import SqlGrader.Proofs.Grader.Reports
import SqlGrader.Proofs.Session.ReplacedRows
import SqlGrader.Proofs.Grader.SeededTables
import SqlGrader.Proofs.Plan.TablesRead
import SqlGrader.Proofs.Grader.SeededTests
import SqlGrader.Proofs.Binary64.Integers
import SqlGrader.Proofs.Binary64.RoundedRatios
import SqlGrader.Proofs.Score.RoundedUp
import SqlGrader.Proofs.Score.FullMatches
import SqlGrader.Proofs.Schema.BuiltTables
import SqlGrader.Proofs.Json.Numerals
import SqlGrader.Proofs.Json.ShortNumbers
import SqlGrader.Proofs.Json.Strings
import SqlGrader.Proofs.Json.ReadBack
import SqlGrader.Proofs.Json.FiniteNumbers
import SqlGrader.Proofs.Json.Records
import SqlGrader.Proofs.Unicode.TrimmedEnds
import SqlGrader.Proofs.Schema.Authoring
import SqlGrader.Proofs.Cell.ReadBack
import SqlGrader.Proofs.Problem.ReadBack
import SqlGrader.Proofs.Regex.Builtin
import SqlGrader.Proofs.Like.Cuts
import SqlGrader.Proofs.Plan.Groups
import SqlGrader.Proofs.Cell.Equality
import SqlGrader.Proofs.Plan.GroupCounts
import SqlGrader.Proofs.Plan.SharedRows
import SqlGrader.Proofs.Session.StoredCells
import SqlGrader.Proofs.Session.CountedRows
import SqlGrader.Proofs.Statement.SourceText
import SqlGrader.Proofs.Statement.Conditions
import SqlGrader.Proofs.Token.JoinedTexts
import SqlGrader.Proofs.Statement.Insertions
import SqlGrader.Proofs.Statement.SelectItems
import SqlGrader.Proofs.Statement.Queries
import SqlGrader.Proofs.Statement.InterpretedQueries
import SqlGrader.Proofs.Statement.TableQuery
import SqlGrader.Proofs.Plan.Outlines
import SqlGrader.Proofs.Session.IgnoredClauses
import SqlGrader.Proofs.Session.Aliases
import SqlGrader.Proofs.Session.TableNames
import SqlGrader.Proofs.Plan.NestedConditions
import SqlGrader.Proofs.Score.Pairings
import SqlGrader.Proofs.Score.Presentation
import SqlGrader.Proofs.Binary64.OrderedRatios
import SqlGrader.Proofs.Score.Monotonicity
import SqlGrader.Proofs.Score.HalfUp
import SqlGrader.Proofs.Grader.OwnSeed
import SqlGrader.Proofs.Cell.NearestNumbers
import SqlGrader.Proofs.Session.IntegerConditions
import SqlGrader.Proofs.Binary64.Overflow
import SqlGrader.Proofs.Session.FiniteCells
import SqlGrader.Proofs.Session.ConditionalCreation
import SqlGrader.Proofs.Text.ByteOrder
import SqlGrader.Proofs.Rendering.CsvFields
import SqlGrader.Proofs.Grader.SchemaTests
import SqlGrader.Proofs.Settings.Labels
import SqlGrader.Proofs.Token.OpenEnds
import SqlGrader.Proofs.Token.Places
import SqlGrader.Proofs.Token.JoinedLines
import SqlGrader.Proofs.Statement.CutOutTexts
import SqlGrader.Proofs.Statement.ErrorPlaces
