import SqlGrader.Proofs.Text.LongestFront
import SqlGrader.Proofs.Token.Span
import SqlGrader.Rendering.Csv

/-!
# Reading comma-separated values

A field can be read off the front of a text: it is what stands between quotes, or else what stands
in front of the next comma or line feed. So a field leaves no doubt where it ends
(`readCsvField?_append`), nor do the fields of a line that has any, nor the lines of a text. Main
statement: answers with the same text have the same labels and cells (`csv_injective`).
-/

set_option autoImplicit false

namespace SqlGrader

open SqlGrader.Lexer (closeQuote? doubled closeQuote?_doubled)

/-! ## Fields -/

/-- Whether a character ends a field that does not stand between quotes. -/
def endsCsvField (c : Char) : Bool :=
  c = ',' || c = '\n'

/-- The field at the front of a text, and what follows it. -/
def readCsvField? : List Char → Option (List Char × List Char)
  | '"' :: inside => (closeQuote? '"' inside).map fun (value, _, rest) => (value, rest)
  | cs => some (cs.takeWhile (!endsCsvField ·), cs.dropWhile (!endsCsvField ·))

/-- The characters that make a field stand between quotes. -/
def needsQuotes (c : Char) : Bool :=
  c = ',' || c = '"' || c = '\n'

theorem toList_csvField (text : String) :
    (csvField text).toList =
      if text.toList.any needsQuotes then '"' :: (doubled '"' text.toList ++ ['"'])
      else text.toList := by
  unfold csvField
  change (if text.toList.any needsQuotes = true then _ else _ : String).toList = _
  split
  · simp [doubled]
  · rfl

theorem readCsvField?_of_head?_ne {cs : List Char} (plain : cs.head? ≠ some '"') :
    readCsvField? cs = some (cs.takeWhile (!endsCsvField ·), cs.dropWhile (!endsCsvField ·)) := by
  unfold readCsvField?
  split
  · exact absurd rfl plain
  · rfl

/-- What is written as a field is read back, up to the comma or line feed behind it. -/
theorem readCsvField?_append (text : String) {next : Char} (rest : List Char)
    (ends : endsCsvField next = true) :
    readCsvField? ((csvField text).toList ++ next :: rest) = some (text.toList, next :: rest) := by
  have noQuote : next ≠ '"' := by
    rintro rfl
    cases ends
  rw [toList_csvField]
  by_cases quoted : text.toList.any needsQuotes = true
  · have behind : (next :: rest).head? ≠ some '"' := by simpa using noQuote
    have closed := closeQuote?_doubled text.toList behind
    simp [quoted, readCsvField?, closed]
  · have plain : ∀ c ∈ text.toList, c ≠ '"' ∧ endsCsvField c = false := by
      intro c member
      have notNeeded : needsQuotes c = false := by
        simpa using mt (List.any_eq_true.2 ⟨c, member, ·⟩) quoted
      simp only [needsQuotes, Bool.or_eq_false_iff, decide_eq_false_iff_not] at notNeeded
      exact ⟨notNeeded.1.2, by simp [endsCsvField, notNeeded]⟩
    have head : (text.toList ++ next :: rest).head? ≠ some '"' := by
      cases whole : text.toList with
      | nil => simpa using noQuote
      | cons c tail => simpa using (plain c (by simp [whole])).1
    obtain ⟨field, behind⟩ := Text.takeWhile_front (p := (!endsCsvField ·)) (next :: rest)
      (fun c member => by simp [(plain c member).2]) (fun c first => by cases first; simp [ends])
    rw [if_neg quoted, readCsvField?_of_head?_ne head, field, behind]

/-- Fields in front of commas or line feeds are told apart by the text. -/
theorem csvField_append_inj {text other : String} {next nextToo : Char} {rest restToo : List Char}
    (ends : endsCsvField next = true) (endsToo : endsCsvField nextToo = true)
    (same : (csvField text).toList ++ next :: rest =
      (csvField other).toList ++ nextToo :: restToo) :
    text = other ∧ next = nextToo ∧ rest = restToo := by
  have read := readCsvField?_append text rest ends
  rw [same, readCsvField?_append other restToo endsToo] at read
  simp only [Option.some.injEq, Prod.mk.injEq, List.cons.injEq] at read
  exact ⟨String.toList_inj.1 read.1.symm, read.2.1.symm, read.2.2.symm⟩

/-! ## Lines -/

theorem toList_csvLine_singleton (field : String) :
    (csvLine [field]).toList = (csvField field).toList ++ ['\n'] := by
  simp [csvLine]

theorem toList_csvLine_cons_cons (field next : String) (fields : List String) :
    (csvLine (field :: next :: fields)).toList =
      (csvField field).toList ++ ',' :: (csvLine (next :: fields)).toList := by
  simp [csvLine, String.intercalate_cons_cons]

/-- A line with a field is told apart by the text, with whatever follows it. -/
theorem csvLine_append_inj {fields others : List String} {rest restToo : List Char}
    (some? : fields ≠ []) (someToo : others ≠ [])
    (same : (csvLine fields).toList ++ rest = (csvLine others).toList ++ restToo) :
    fields = others ∧ rest = restToo := by
  have comma : endsCsvField ',' = true := rfl
  have feed : endsCsvField '\n' = true := rfl
  induction fields generalizing others with
  | nil => exact absurd rfl some?
  | cons field fields ih =>
    cases others with
    | nil => exact absurd rfl someToo
    | cons other others =>
      cases fields with
      | nil =>
        cases others with
        | nil =>
          simp only [toList_csvLine_singleton, List.append_assoc, List.singleton_append] at same
          obtain ⟨rfl, -, behind⟩ := csvField_append_inj feed feed same
          exact ⟨rfl, behind⟩
        | cons next others =>
          simp only [toList_csvLine_singleton, toList_csvLine_cons_cons, List.append_assoc,
            List.cons_append] at same
          exact absurd (csvField_append_inj feed comma same).2.1 (by decide)
      | cons next fields =>
        cases others with
        | nil =>
          simp only [toList_csvLine_singleton, toList_csvLine_cons_cons, List.append_assoc,
            List.cons_append] at same
          exact absurd (csvField_append_inj comma feed same).2.1 (by decide)
        | cons nextToo others =>
          simp only [toList_csvLine_cons_cons, List.append_assoc, List.cons_append] at same
          obtain ⟨rfl, -, behind⟩ := csvField_append_inj comma comma same
          obtain ⟨later, last⟩ := ih (by simp) (by simp) behind
          exact ⟨by rw [later], last⟩

theorem csvLine_ne_empty (fields : List String) : csvLine fields ≠ "" := by
  simp [csvLine]

/-- Lines with fields are told apart by the text. -/
theorem csvLines_inj {rows others : List (List String)} (some? : ∀ row ∈ rows, row ≠ [])
    (someToo : ∀ row ∈ others, row ≠ [])
    (same : (String.join (rows.map csvLine)).toList = (String.join (others.map csvLine)).toList) :
    rows = others := by
  induction rows generalizing others with
  | nil =>
    cases others with
    | nil => rfl
    | cons other others => simp [csvLine_ne_empty] at same
  | cons row rows ih =>
    cases others with
    | nil => simp [csvLine_ne_empty] at same
    | cons other others =>
      rw [List.forall_mem_cons] at some? someToo
      rw [List.map_cons, List.map_cons, String.join_cons, String.join_cons, String.toList_append,
        String.toList_append] at same
      obtain ⟨rfl, behind⟩ := csvLine_append_inj some?.1 someToo.1 same
      rw [ih some?.2 someToo.2 behind]

/-- Answers with labels, and with a cell in each row, that are written as the same text have the
same labels and, row by row, the same texts in their cells. -/
theorem csv_injective {result other : ResultSet} (labels : result.columns ≠ [])
    (labelsToo : other.columns ≠ []) (cells : ∀ row ∈ result.rows, row ≠ [])
    (cellsToo : ∀ row ∈ other.rows, row ≠ []) (same : result.csv = other.csv) :
    result.columns = other.columns ∧ result.rows.length = other.rows.length ∧
      result.rows.map (·.map Cell.display) = other.rows.map (·.map Cell.display) := by
  have texts := congrArg String.toList same
  unfold ResultSet.csv at texts
  rw [String.toList_append, String.toList_append] at texts
  obtain ⟨sameLabels, behind⟩ := csvLine_append_inj labels labelsToo texts
  have lines : ∀ rows : List Row, rows.map (fun row => csvLine (row.map Cell.display)) =
      (rows.map (·.map Cell.display)).map csvLine := by simp
  rw [lines, lines] at behind
  have sameCells := csvLines_inj (by simpa using cells) (by simpa using cellsToo) behind
  exact ⟨sameLabels, by simpa using congrArg List.length sameCells, sameCells⟩

/-- Fields with commas, quotes and line feeds in them, empty ones at both ends of a row and as the
only one, and a number next to its text. -/
theorem csv_injective_quotes :
    let cells : List Cell := [.text "", .text "a,\"b\"\n", .integer 7, .text ""]
    let result : ResultSet := ⟨["id, \"name\"", ""], [cells, [.text ""]]⟩
    let other : ResultSet := ⟨["id, \"name\"", ""],
      [[.text "", .text "a,\"b\"\n", .text "7", .text ""], [.text ""]]⟩
    result.csv = other.csv ∧ result.rows.length = other.rows.length ∧
      result.rows.map (·.map Cell.display) = other.rows.map (·.map Cell.display) := by
  intro cells result other
  have same : result.csv = other.csv := by decide +kernel
  have labels : ["id, \"name\"", ""] ≠ [] := by simp
  have cells : ∀ row ∈ result.rows, row ≠ [] := by decide +kernel
  have cellsToo : ∀ row ∈ other.rows, row ≠ [] := by decide +kernel
  obtain ⟨-, length, texts⟩ := csv_injective labels labels cells cellsToo same
  exact ⟨same, length, texts⟩

end SqlGrader
