import SqlGrader.Settings

/-!
# Command-line arguments

Options stand before or after a subcommand, with their values behind them or attached to them;
what follows two dashes is no option. An option with a separate value is settled when the next
argument shows that the value is complete, and settling it checks the value. Two options, for
the settings file and for the output, are known everywhere; given both before and after the
subcommand, the latter counts.

Source: the subcommands and options of `SPEC_FULL.md`, section 10.4.
-/

set_option autoImplicit false

namespace SqlGrader.CommandLine

inductive OutputFormat where
  | table
  | csv
  | json
  deriving DecidableEq

namespace OutputFormat

def name : OutputFormat → String
  | table => "table"
  | csv => "csv"
  | json => "json"

def ofName? : String → Option OutputFormat
  | "table" => some table
  | "csv" => some csv
  | "json" => some json
  | _ => none

end OutputFormat

inductive Command where
  | list
  | ddl (schema : String)
  | grade (schema problem : String) (queries : List String) (overrides : Overrides)
  | query (schema : String) (problem? : Option String) (test? : Option Nat) (sql : String)
      (overrides : Overrides)
  deriving DecidableEq

structure Arguments where
  command : Command
  config? : Option String
  format : OutputFormat
  deriving DecidableEq

inductive Subcommand where
  | list
  | ddl
  | grade
  | query
  deriving DecidableEq

namespace Subcommand

def all : List Subcommand := [list, ddl, grade, query]

def name : Subcommand → String
  | list => "list"
  | ddl => "ddl"
  | grade => "grade"
  | query => "query"

def ofName? (word : String) : Option Subcommand :=
  all.find? fun subcommand => subcommand.name == word

end Subcommand

/-- Why there is nothing to be done with the arguments. -/
inductive UsageError where
  /-- Nothing is given at all. -/
  | nothingGiven
  | missingSubcommand
  | invalidSubcommand
  | unknownArgument
  | missingArgument
  /-- A value is missing or is none of the possible ones. -/
  | invalidValue
  /-- A value is not of its form. -/
  | malformedValue
  /-- An option is given twice. -/
  | repeatedArgument
  /-- A flag has a value. -/
  | unneededValue
  | helpRequested
  | versionRequested (subcommand? : Option Subcommand)
  deriving DecidableEq

inductive OptionName where
  | config | format | schema | problem | query | test | policy | scope
  | strict | help | version
  deriving DecidableEq

namespace OptionName

def takesValue : OptionName → Bool
  | strict | help | version => false
  | _ => true

def repeats : OptionName → Bool
  | query => true
  | _ => false

def long : OptionName → String
  | config => "config"
  | format => "format"
  | schema => "schema"
  | problem => "problem"
  | query => "query"
  | test => "test"
  | policy => "policy"
  | scope => "scope"
  | strict => "strict"
  | help => "help"
  | version => "version"

def short? : OptionName → Option Char
  | config => some 'c'
  | format => some 'f'
  | schema => some 's'
  | problem => some 'p'
  | query => some 'q'
  | test => some 't'
  | help => some 'h'
  | version => some 'V'
  | policy | scope | strict => none

end OptionName

/-- The number of a test, in the range of 64 bits. -/
def readTestNumber? (text : String) : Option Nat :=
  let digits := match text.toList with
    | '+' :: rest => rest
    | cs => cs
  (Text.readDigits? digits).bind fun n => if n < UInt64.size then some n else none

def valueError? (option : OptionName) (value : String) : Option UsageError :=
  match option with
  | .config | .schema => if value = "" then some .invalidValue else none
  | .format => if (OutputFormat.ofName? value).isNone then some .invalidValue else none
  | .policy => if (ComparePolicy.ofName? value).isNone then some .invalidValue else none
  | .scope => if (MatchScope.ofName? value).isNone then some .invalidValue else none
  | .test => if (readTestNumber? value).isNone then some .malformedValue else none
  | .problem | .query | .strict | .help | .version => none

/-- What can be given at one place: before the subcommand, or after it. -/
structure Level where
  subcommand? : Option Subcommand
  options : List OptionName
  operands : Nat

namespace Level

/-- The options that are known everywhere. -/
def everywhere : List OptionName := [.config, .format, .help, .version]

/-- What can be given before the subcommand. -/
def top : Level := ⟨none, everywhere, 0⟩

/-- What can be given after a subcommand. -/
def after (subcommand : Subcommand) : Level :=
  match subcommand with
  | .list => ⟨subcommand, everywhere, 0⟩
  | .ddl => ⟨subcommand, .schema :: everywhere, 0⟩
  | .grade => ⟨subcommand, [.schema, .problem, .query, .strict, .policy, .scope] ++ everywhere, 0⟩
  | .query => ⟨subcommand, [.schema, .problem, .test, .strict, .policy, .scope] ++ everywhere, 1⟩

def ofLong? (level : Level) (word : String) : Option OptionName :=
  level.options.find? fun option => option.long == word

def ofShort? (level : Level) (c : Char) : Option OptionName :=
  level.options.find? fun option => option.short? == some c

end Level

/-- What has been read at one place. The option read last may still be open: its value is
missing, or has not been checked. -/
structure Progress where
  settled : List (OptionName × String)
  open? : Option (OptionName × Option String)
  operands : List String
  onlyOperands : Bool

namespace Progress

def start : Progress := ⟨[], none, [], false⟩

def value? (p : Progress) (option : OptionName) : Option String :=
  p.settled.lookup option

def values (p : Progress) (option : OptionName) : List String :=
  (p.settled.filter (·.1 = option)).map (·.2)

/-- Whether the next argument is a value if it is no option. -/
def awaitsValue (p : Progress) : Bool :=
  match p.open? with
  | some (_, none) => true
  | _ => false

/-- Checks an option with its value. -/
def settle (p : Progress) (option : OptionName) (value : String) : Except UsageError Progress :=
  if !option.repeats && (p.value? option).isSome then .error .repeatedArgument
  else match valueError? option value with
    | some e => .error e
    | none => .ok { p with settled := p.settled ++ [(option, value)] }

/-- Settles the option that is open. -/
def close (p : Progress) : Except UsageError Progress :=
  match p.open? with
  | none => .ok p
  | some (_, none) => .error .invalidValue
  | some (option, some value) => { p with open? := none }.settle option value

/-- Reads an option whose value, if any, is separate. -/
def begin (p : Progress) (level : Level) (option : OptionName) : Except UsageError Progress := do
  let p ← p.close
  match option with
  | .help => .error .helpRequested
  | .version => .error (.versionRequested level.subcommand?)
  | .strict => p.settle option "true"
  | _ => .ok { p with open? := some (option, none) }

/-- Reads an option together with its value. -/
def attach (p : Progress) (option : OptionName) (value : String) : Except UsageError Progress := do
  let p ← p.close
  p.settle option value

/-- Reads what follows two dashes: an option by its name, perhaps with a value. -/
def readLong (p : Progress) (level : Level) (word : String) (value? : Option String) :
    Except UsageError Progress :=
  match level.ofLong? word, value? with
  | none, _ => .error .unknownArgument
  | some option, none => p.begin level option
  | some option, some value =>
    if option.takesValue then p.attach option value else .error .unneededValue

/-- Reads what follows one dash: flags of one letter each, until an option takes the rest as its
value. -/
def readShort (p : Progress) (level : Level) : List Char → Except UsageError Progress
  | [] => .ok p
  | c :: rest =>
    match level.ofShort? c with
    | none => .error .unknownArgument
    | some option =>
      if option.takesValue then
        match rest with
        | [] => p.begin level option
        | '=' :: value => p.attach option (String.ofList value)
        | value => p.attach option (String.ofList value)
      else
        match p.begin level option with
        | .ok p => p.readShort level rest
        | .error e => .error e

end Progress

/-- The error of an operand for which there is no place. -/
def operandError (level : Level) (onlyOperands : Bool) (word : String) : UsageError :=
  match level.subcommand? with
  | some _ => .unknownArgument
  | none =>
    if onlyOperands && ((Subcommand.ofName? word).isSome || word = "help") then .unknownArgument
    else .invalidSubcommand

def readOperand (level : Level) (p : Progress) (word : String) : Except UsageError Progress :=
  if p.operands.length < level.operands then do
    let p ← p.close
    return { p with operands := p.operands ++ [word] }
  else .error (operandError level p.onlyOperands word)

def readArgument (level : Level) (p : Progress) (arg : String) : Except UsageError Progress :=
  if p.onlyOperands then readOperand level p arg
  else
    match arg.toList with
    | ['-', '-'] => .ok { p with onlyOperands := true }
    | '-' :: '-' :: rest =>
      let word := String.ofList (rest.takeWhile (· ≠ '='))
      match rest.dropWhile (· ≠ '=') with
      | [] => p.readLong level word none
      | _ :: value => p.readLong level word (some (String.ofList value))
    | '-' :: c :: rest => p.readShort level (c :: rest)
    | _ =>
      match p.open? with
      | some (option, none) => .ok { p with open? := some (option, some arg) }
      | _ => readOperand level p arg

/-- The outcome of the words after `help`. -/
def helpError : List String → UsageError
  | [] => .helpRequested
  | [word] =>
    if (Subcommand.ofName? word).isSome || word = "help" then .helpRequested
    else .invalidSubcommand
  | _ => .invalidSubcommand

/-- Reads the arguments before the subcommand, and returns it with those after it. -/
def readTop (p : Progress) :
    List String → Except UsageError (Progress × Option (Subcommand × List String))
  | [] => .ok (p, none)
  | arg :: rest =>
    if !p.onlyOperands && !p.awaitsValue then
      if arg = "help" then .error (helpError rest)
      else match Subcommand.ofName? arg with
        | some subcommand => .ok (p, some (subcommand, rest))
        | none =>
          match readArgument .top p arg with
          | .error e => .error e
          | .ok p => readTop p rest
    else
      match readArgument .top p arg with
      | .error e => .error e
      | .ok p => readTop p rest

/-- Reads the arguments after a subcommand. -/
def readAfter (level : Level) (p : Progress) : List String → Except UsageError Progress
  | [] => p.close
  | arg :: rest =>
    match readArgument level p arg with
    | .error e => .error e
    | .ok p => readAfter level p rest

def needed {α : Type} : Option α → Except UsageError α
  | some value => .ok value
  | none => .error .missingArgument

def overridesOf (p : Progress) : Overrides where
  strict := (p.value? .strict).isSome
  policy? := (p.value? .policy).bind ComparePolicy.ofName?
  scope? := (p.value? .scope).bind MatchScope.ofName?

/-- The command of a subcommand with what was read after it. The number of a test needs a
problem. -/
def commandOf (subcommand : Subcommand) (p : Progress) : Except UsageError Command :=
  match subcommand with
  | .list => .ok .list
  | .ddl => do
    let schema ← needed (p.value? .schema)
    return .ddl schema
  | .grade => do
    let schema ← needed (p.value? .schema)
    return .grade schema ((p.value? .problem).getD "1") (p.values .query) (overridesOf p)
  | .query => do
    let schema ← needed (p.value? .schema)
    let sql ← needed p.operands.head?
    let test? := (p.value? .test).bind readTestNumber?
    if test?.isSome && (p.value? .problem).isNone then .error .missingArgument
    else return .query schema (p.value? .problem) test? sql (overridesOf p)

def parse (args : List String) : Except UsageError Arguments := do
  match ← readTop .start args with
  | (p, none) =>
    let p ← p.close
    if p.settled = [] then .error .nothingGiven else .error .missingSubcommand
  | (p, some (subcommand, rest)) =>
    let q ← readAfter (.after subcommand) .start rest
    let command ← commandOf subcommand q
    let p ← p.close
    let format? := (q.value? .format).or (p.value? .format)
    return ⟨command, (q.value? .config).or (p.value? .config),
      (format?.bind OutputFormat.ofName?).getD .table⟩

end SqlGrader.CommandLine
