import SqlGrader.Cell.Json
import SqlGrader.Proofs.Json.FiniteNumbers
import SqlGrader.Proofs.Json.Records
import SqlGrader.Proofs.Session.ReplacedRows

/-!
# Cells read back

A cell keeps its kind and its value in its written form: an integer is written without a point, a
number always with a point or an exponent, and a text in quotes. Only a number may be written in a
form that is read as another one, which `ReadsBack` rules out. Main statement:
`standsFor_listToJson`.
-/

set_option autoImplicit false

namespace SqlGrader

open Json (Value)
open Json.Value (StandsFor)

namespace Cell

/-- The cell of the number that an integer is read as. -/
theorem ofNumber_toInt (i : Int64) :
    ofNumber (if i.toInt < 0 then .negative i.toInt else .natural i.toInt.natAbs) = .integer i := by
  split
  · rw [ofNumber, Int64.ofInt_toInt]
  · have small := i.toInt_lt
    have half : UInt64.size / 2 = 2 ^ 63 := rfl
    have back : (i.toInt.natAbs : Int) = i.toInt := by omega
    rw [ofNumber, if_pos (by omega), ← Int64.ofInt_eq_ofNat, back, Int64.ofInt_toInt]

theorem standsFor_integer (i : Int64) : StandsFor ofJson? 0 (integer i).toJson (integer i) := by
  have low := i.le_toInt
  have high := i.toInt_lt
  have half : UInt64.size / 2 = 2 ^ 63 := rfl
  have size : UInt64.size = 2 ^ 64 := rfl
  have number := @Value.number?_integerText i.toInt (by omega) (by omega)
  constructor
  · exact Option.isSome_iff_exists.2 ⟨_, number⟩
  · simp only [toJson, Value.ofInt, ofJson?, number, Option.map_some, ofNumber_toInt]

theorem standsFor_float {x : Binary64} (finite : x.isFinite = true) (back : Json.ReadsBack x) :
    StandsFor ofJson? 0 (float x).toJson (float x) := by
  have number := Value.number?_text finite back
  have written : (float x).toJson = .number (String.ofList (NumberFormat.json.text x)) :=
    if_pos finite
  rw [written]
  constructor
  · exact Option.isSome_iff_exists.2 ⟨_, number⟩
  · simp only [ofJson?, number, Option.map_some, ofNumber]

def ReadsBack : Cell → Prop
  | float x => x.isFinite = true ∧ Json.ReadsBack x
  | null | integer _ | text _ => True

instance : ∀ c : Cell, Decidable c.ReadsBack
  | float _ => inferInstanceAs (Decidable (_ ∧ _))
  | null | integer _ | text _ => .isTrue trivial

theorem standsFor_toJson {c : Cell} (back : c.ReadsBack) : StandsFor ofJson? 0 c.toJson c := by
  cases c with
  | null | text s => exact ⟨rfl, rfl⟩
  | integer i => exact standsFor_integer i
  | float x => exact standsFor_float back.1 back.2

/-- Whatever cell is read holds no infinite number. -/
theorem isFinite_of_ofJson? {v : Value} {c : Cell} (read : ofJson? v = some c) :
    c.isFinite = true := by
  cases v with
  | null =>
    cases read
    rfl
  | number numeral =>
    obtain ⟨number, found, rfl⟩ := Option.map_eq_some_iff.1 read
    have fits := Value.fits_of_number? found
    cases number with
    | natural n =>
      rw [ofNumber]
      split
      · rfl
      · exact Binary64.isFinite_ofNat fits
    | negative i => rfl
    | real x => exact fits
  | string text? =>
    obtain ⟨text, rfl, rfl⟩ := Option.map_eq_some_iff.1 read
    rfl
  | _ => cases read

end Cell

namespace Row

theorem standsFor_toJson {row : Row} (back : ∀ cell ∈ row, cell.ReadsBack) :
    StandsFor ofJson? 1 row.toJson row :=
  Value.standsFor_array fun cell member => Cell.standsFor_toJson (back cell member)

/-- Rows are read back cell by cell. -/
theorem standsFor_listToJson {rows : List Row} (back : ∀ row ∈ rows, ∀ cell ∈ row, cell.ReadsBack) :
    StandsFor listOfJson? 2 (listToJson rows) rows :=
  Value.standsFor_array fun row member => standsFor_toJson (back row member)

theorem allFinite_of_listOfJson? {v : Value} {rows : List Row} (read : listOfJson? v = some rows) :
    AllFinite rows :=
  Value.forall_of_asList?
    (fun _ _ found => Value.forall_of_asList? (fun _ _ => Cell.isFinite_of_ofJson?) found) read

end Row

end SqlGrader
