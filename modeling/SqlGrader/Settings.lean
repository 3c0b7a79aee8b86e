import SqlGrader.Json.Reader
import SqlGrader.Json.Fields
import SqlGrader.Plan.RowFilter
import SqlGrader.Score

/-!
# Settings

How strictly statements are read, how answers are compared, which cells a condition looks at,
and the column labels of further tables. All of it can be set in a JSON file.

Source: `validate`, `catalog` and `apply`; `SPEC_FULL.md`, section 10.3.
-/

set_option autoImplicit false

namespace SqlGrader

open Json (Value)

/-- Entries by key, in the order of the keys. -/
abbrev SortedEntries := List (String × List String)

/-- The entries with one more, in place of one with the same key. -/
def SortedEntries.put (key : String) (columns : List String) : SortedEntries → SortedEntries
  | [] => [(key, columns)]
  | (other, old) :: rest =>
    if key = other then (key, columns) :: rest
    else if key < other then (key, columns) :: (other, old) :: rest
    else (other, old) :: SortedEntries.put key columns rest

structure Settings where
  leniency : Leniency
  policy : ComparePolicy
  scope : MatchScope
  /-- Column labels of tables, which add to those of the built-in problems. -/
  catalog : SortedEntries
  deriving DecidableEq

/-- Why a text does not give settings. -/
inductive SettingsError where
  /-- It is no JSON text of the expected form. -/
  | json
  /-- A table has no columns. -/
  | emptyCatalogTable (table : String)
  deriving DecidableEq

namespace SettingsError

def message : SettingsError → String
  | json => "Invalid config"
  | emptyCatalogTable table => s!"Catalog table '{table}' has no columns"

end SettingsError

namespace Leniency

def name : Leniency → String
  | lenient => "lenient"
  | strict => "strict"

def ofName? : String → Option Leniency
  | "lenient" => some lenient
  | "strict" => some strict
  | _ => none

end Leniency

namespace ComparePolicy

def name : ComparePolicy → String
  | exact => "exact"
  | fuzzy => "fuzzy"

def ofName? : String → Option ComparePolicy
  | "exact" => some exact
  | "fuzzy" => some fuzzy
  | _ => none

end ComparePolicy

namespace MatchScope

def name : MatchScope → String
  | row => "row"
  | column => "column"

def ofName? : String → Option MatchScope
  | "row" => some row
  | "column" => some column
  | _ => none

end MatchScope

namespace Settings

def default : Settings :=
  ⟨.lenient, .exact, .row, []⟩

/-- The entries of an object; of several with one key the last one counts. -/
def catalogOfJson? : Value → Option SortedEntries
  | .object members =>
    members.foldlM
      (fun entries (key?, v) => do
        let key ← key?
        let columns ← Value.asList? Value.asText? v
        return SortedEntries.put key columns entries)
      []
  | _ => none

def ofJson? (v : Value) : Option Settings :=
  match v.fields? ["leniency", "policy", "matchScope", "catalog"] with
  | some [leniency, policy, scope, catalog] => do
    let leniency ←
      Value.optional default.leniency (fun v => v.asName?.bind Leniency.ofName?) leniency
    let policy ←
      Value.optional default.policy (fun v => v.asName?.bind ComparePolicy.ofName?) policy
    let scope ← Value.optional default.scope (fun v => v.asName?.bind MatchScope.ofName?) scope
    let catalog ← Value.optional default.catalog catalogOfJson? catalog
    return ⟨leniency, policy, scope, catalog⟩
  | _ => none

def toJson (settings : Settings) : Value :=
  .record
    [("leniency", .text settings.leniency.name), ("policy", .text settings.policy.name),
     ("matchScope", .text settings.scope.name),
     ("catalog", .record (settings.catalog.map fun (table, columns) =>
       (table, .array (columns.map Value.text))))]

/-- Reads a text as settings. Every table has to have columns. -/
def parse (text : String) : Except SettingsError Settings :=
  match (Json.parse? text).bind ofJson? with
  | none => .error .json
  | some settings =>
    match settings.catalog.find? (·.2.isEmpty) with
    | some (table, _) => .error (.emptyCatalogTable table)
    | none => .ok settings

/-- The labels of the built-in problems together with those that are set. -/
def labels (settings : Settings) : Catalog :=
  Catalog.classroom.extend settings.catalog

end Settings

structure Overrides where
  strict : Bool
  policy? : Option ComparePolicy
  scope? : Option MatchScope
  deriving DecidableEq

/-- The settings with those of one run in place of their own. -/
def Settings.override (settings : Settings) (overrides : Overrides) : Settings where
  leniency := if overrides.strict then .strict else settings.leniency
  policy := overrides.policy?.getD settings.policy
  scope := overrides.scope?.getD settings.scope
  catalog := settings.catalog

end SqlGrader
