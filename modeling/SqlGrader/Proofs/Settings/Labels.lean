import Mathlib.Data.List.Induction
import Mathlib.Order.Bounds.Basic
import SqlGrader.Proofs.Json.Records
import SqlGrader.Proofs.Text.ByteOrder
import SqlGrader.Settings

/-!
# The labels that settings give

Every table of a catalogue has labels if all that are entered have some (`Titled.extend`), and of
the entries for one table the last one counts (`columns_extend`). Settings keep their entries in the
order of the names (`catalog_of_parse`), so that the last one is the one with the greatest name.
Main statement: `labels_of_parse`.
-/

set_option autoImplicit false

namespace SqlGrader

/-! ## Catalogues -/

namespace Catalog

/-- Whether each table that is entered has labels. -/
def Titled (catalog : Catalog) : Prop :=
  ∀ entry ∈ catalog.entries, entry.2 ≠ []

theorem Titled.insert {catalog : Catalog} (titled : catalog.Titled) (table : String)
    {columns : List String} (some? : columns ≠ []) : (catalog.insert table columns).Titled :=
  List.forall_mem_cons.2 ⟨by simpa using some?, titled⟩

theorem Titled.extend {catalog : Catalog} (titled : catalog.Titled)
    {entries : List (String × List String)} (some? : ∀ entry ∈ entries, entry.2 ≠ []) :
    (catalog.extend entries).Titled := by
  induction entries generalizing catalog with
  | nil => exact titled
  | cons entry rest ih =>
    rw [List.forall_mem_cons] at some?
    exact ih (titled.insert entry.1 some?.1) some?.2

theorem titled_classroom : classroom.Titled :=
  Titled.extend (List.forall_mem_nil _) (by decide)

theorem Titled.columns_ne_nil {catalog : Catalog} (titled : catalog.Titled) (table : String) :
    catalog.columns table ≠ [] := by
  unfold columns
  cases found : catalog.entries.lookup (Unicode.toLower table) with
  | none => simp [fallback]
  | some columns =>
    obtain ⟨before, after, entries, -⟩ := List.lookup_eq_some_iff.1 found
    exact titled (Unicode.toLower table, columns) (by simp [entries])

/-- Of the entries made for a table the last one counts. -/
theorem columns_extend (catalog : Catalog) (entries : List (String × List String))
    (table : String) :
    (catalog.extend entries).columns table =
      match entries.reverse.find? fun entry => Unicode.toLower entry.1 = Unicode.toLower table with
      | some entry => entry.2.map Unicode.toLower
      | none => catalog.columns table := by
  -- by the entry that is made last, which stands in front of all others
  induction entries using List.reverseRecOn with
  | nil => rfl
  | append_singleton earlier last ih =>
    have step : catalog.extend (earlier ++ [last]) =
        (catalog.extend earlier).insert last.1 last.2 := by
      simp [extend]
    rw [step, columns_insert, List.reverse_append, List.reverse_singleton, List.singleton_append,
      List.find?_cons]
    by_cases same : Unicode.toLower last.1 = Unicode.toLower table
    · simp [same]
    · simpa [same, Ne.symm same] using ih

theorem columns_of_not_contains {catalog : Catalog} {table : String}
    (missing : catalog.contains table = false) : catalog.columns table = fallback := by
  rw [contains, Option.isSome_eq_false_iff, Option.isNone_iff_eq_none] at missing
  rw [columns, missing, Option.getD_none]

/-- A column is found at the least place with its label. -/
theorem columnIndex?_eq_some_iff {catalog : Catalog} {table column : String} {i : Nat} :
    catalog.columnIndex? table column = some i ↔
      IsLeast {i | (catalog.columns table)[i]? = some (Unicode.toLower column)} i := by
  rw [columnIndex?, List.idxOf?_eq_some_iff]
  constructor
  · rintro ⟨bound, here, first⟩
    refine ⟨List.getElem?_eq_some_iff.2 ⟨bound, here⟩, fun j there => ?_⟩
    obtain ⟨_, there⟩ := List.getElem?_eq_some_iff.1 there
    exact Nat.le_of_not_lt fun before => first j before there
  · rintro ⟨here, least⟩
    obtain ⟨bound, here⟩ := List.getElem?_eq_some_iff.1 here
    refine ⟨bound, here, fun j before there => ?_⟩
    exact absurd (least (List.getElem?_eq_some_iff.2 ⟨_, there⟩)) (Nat.not_le_of_lt before)

theorem columnIndex?_eq_none_iff {catalog : Catalog} {table column : String} :
    catalog.columnIndex? table column = none ↔ Unicode.toLower column ∉ catalog.columns table :=
  List.idxOf?_eq_none_iff

/-- A catalogue does not tell names of the same lower case apart. -/
theorem columns_congr (catalog : Catalog) {table other : String}
    (same : Unicode.toLower other = Unicode.toLower table) :
    catalog.columns other = catalog.columns table := by
  rw [columns, columns, same]

theorem columnIndex?_congr (catalog : Catalog) {table other : String} (column : String)
    (same : Unicode.toLower other = Unicode.toLower table) :
    catalog.columnIndex? other column = catalog.columnIndex? table column := by
  rw [columnIndex?, columnIndex?, catalog.columns_congr same]

end Catalog

/-! ## Entries in the order of their names -/

namespace SortedEntries

/-- Whether the names ascend, so that none is entered twice. -/
def Ascending (entries : SortedEntries) : Prop :=
  entries.Pairwise fun entry later => entry.1 < later.1

theorem eq_or_mem_of_mem_put {key : String} {columns : List String} {entries : SortedEntries}
    {entry : String × List String} (member : entry ∈ entries.put key columns) :
    entry = (key, columns) ∨ entry ∈ entries := by
  induction entries with
  | nil => exact .inl (List.mem_singleton.1 member)
  | cons first rest ih =>
    obtain ⟨other, old⟩ := first
    rw [put] at member
    split_ifs at member
    · exact (List.mem_cons.1 member).imp_right (List.mem_cons_of_mem _)
    · exact List.mem_cons.1 member
    · rcases List.mem_cons.1 member with rfl | later
      · exact .inr List.mem_cons_self
      · exact (ih later).imp_right (List.mem_cons_of_mem _)

theorem Ascending.put {entries : SortedEntries} (ascending : entries.Ascending) (key : String)
    (columns : List String) : (entries.put key columns).Ascending := by
  unfold Ascending at *
  induction entries with
  | nil => exact List.pairwise_singleton _ _
  | cons first rest ih =>
    obtain ⟨other, old⟩ := first
    obtain ⟨front, behind⟩ := List.pairwise_cons.1 ascending
    rw [SortedEntries.put]
    split_ifs with same before
    · subst same
      exact List.pairwise_cons.2 ⟨front, behind⟩
    · have others : ∀ later ∈ rest, key < later.1 := fun later member =>
        before.trans (front later member)
      exact List.pairwise_cons.2 ⟨List.forall_mem_cons.2 ⟨before, others⟩, ascending⟩
    · refine List.pairwise_cons.2 ⟨fun later member => ?_, ih behind⟩
      rcases eq_or_mem_of_mem_put member with rfl | member
      · exact lt_of_le_of_ne (not_lt.1 before) (Ne.symm same)
      · exact front later member

end SortedEntries

namespace Settings

open Json (Value)

/-- Each member of an object is entered at the place of its name. -/
theorem ascending_of_foldlM {members : List (Option String × Value)} {entries read : SortedEntries}
    (ascending : entries.Ascending)
    (found : members.foldlM (fun entries (key?, v) => do
      let key ← key?
      let columns ← Value.asList? Value.asText? v
      return SortedEntries.put key columns entries) entries = some read) : read.Ascending := by
  induction members generalizing entries with
  | nil =>
    cases found
    exact ascending
  | cons member rest ih =>
    obtain ⟨key?, v⟩ := member
    simp only [List.foldlM_cons, Option.bind_eq_bind, Option.bind_eq_some_iff, Option.pure_def,
      Option.some.injEq] at found
    obtain ⟨_, ⟨key, -, columns, -, rfl⟩, found⟩ := found
    exact ih (ascending.put key columns) found

theorem ascending_of_catalogOfJson? {v : Value} {entries : SortedEntries}
    (found : catalogOfJson? v = some entries) : entries.Ascending := by
  unfold catalogOfJson? at found
  split at found
  · exact ascending_of_foldlM List.Pairwise.nil found
  · cases found

theorem ascending_of_ofJson? {v : Value} {settings : Settings} (found : ofJson? v = some settings) :
    settings.catalog.Ascending := by
  unfold ofJson? at found
  split at found
  · simp only [Option.bind_eq_bind, Option.bind_eq_some_iff, Option.pure_def,
      Option.some.injEq] at found
    obtain ⟨leniency, -, policy, -, scope, -, entries, field, rfl⟩ := found
    by_cases unset : entries = default.catalog
    · rw [unset]
      exact List.Pairwise.nil
    · obtain ⟨w, read⟩ := Value.exists_of_optional unset field
      exact ascending_of_catalogOfJson? read
  · cases found

/-- What settings that are accepted keep to: the names ascend, and each table has columns. -/
theorem catalog_of_parse {text : String} {settings : Settings}
    (accepted : parse text = .ok settings) :
    settings.catalog.Ascending ∧ ∀ entry ∈ settings.catalog, entry.2 ≠ [] := by
  unfold parse at accepted
  split at accepted
  · cases accepted
  · rename_i found
    split at accepted
    · cases accepted
    · rename_i full
      cases accepted
      obtain ⟨v, -, read⟩ := Option.bind_eq_some_iff.1 found
      refine ⟨ascending_of_ofJson? read, fun entry member => ?_⟩
      simpa using List.find?_eq_none.1 full entry member

/-- The entry that counts for a table: of those whose names have the lower case of its name, the one
with the greatest name, byte by byte. -/
structure Enters (settings : Settings) (table : String) (entry : String × List String) : Prop where
  mem : entry ∈ settings.catalog
  lowerCase : Unicode.toLower entry.1 = Unicode.toLower table
  greatest : ∀ other ∈ settings.catalog, Unicode.toLower other.1 = Unicode.toLower table →
    other ≠ entry → Text.bytes other.1 < Text.bytes entry.1

/-- In the order of the names the last entry is the one that counts. -/
theorem enters_of_find?_reverse {settings : Settings} {table : String}
    {entry : String × List String} (ascending : settings.catalog.Ascending)
    (last : (settings.catalog.reverse.find? fun entry =>
      Unicode.toLower entry.1 = Unicode.toLower table) = some entry) :
    settings.Enters table entry := by
  obtain ⟨lowerCase, behind, before, split, others⟩ := List.find?_eq_some_iff_append.1 last
  have descending := List.pairwise_reverse.2 ascending
  rw [split] at descending
  refine ⟨List.mem_reverse.1 (split ▸ by simp), by simpa using lowerCase, ?_⟩
  intro other member same distinct
  rw [← List.mem_reverse, split] at member
  rcases List.mem_append.1 member with later | here
  · have unlike := others other later
    simp [same] at unlike
  · have earlier := (List.mem_cons.1 here).resolve_left distinct
    exact Text.bytes_lt_bytes_iff.2
      ((List.pairwise_cons.1 (List.pairwise_append.1 descending).2.1).1 other earlier)

/-- A table has labels: those of the entry that counts for it, in lower case, or if there is none
those of the built-in problems, or else the general ones. A column is found at the least place with
its label. Tables whose names have the same lower case are labelled alike. -/
theorem labels_of_parse {text : String} {settings : Settings}
    (accepted : parse text = .ok settings) (table : String) :
    let labels := settings.labels.columns table
    labels ≠ [] ∧
    ((∃ entry, settings.Enters table entry ∧ labels = entry.2.map Unicode.toLower) ∨
      (∀ entry ∈ settings.catalog, Unicode.toLower entry.1 ≠ Unicode.toLower table) ∧
        labels = if Catalog.classroom.contains table then Catalog.classroom.columns table
          else Catalog.fallback) ∧
    (∀ column i, settings.labels.columnIndex? table column = some i ↔
      IsLeast {i | labels[i]? = some (Unicode.toLower column)} i) ∧
    (∀ column, settings.labels.columnIndex? table column = none ↔
      Unicode.toLower column ∉ labels) ∧
    (∀ other, Unicode.toLower other = Unicode.toLower table →
      settings.labels.columns other = labels ∧ ∀ column,
        settings.labels.columnIndex? other column = settings.labels.columnIndex? table column) := by
  intro labels
  obtain ⟨ascending, some?⟩ := catalog_of_parse accepted
  refine ⟨(Catalog.titled_classroom.extend some?).columns_ne_nil table, ?_,
    fun column i => Catalog.columnIndex?_eq_some_iff,
    fun column => Catalog.columnIndex?_eq_none_iff,
    fun other same => ⟨Catalog.columns_congr _ same, fun column =>
      Catalog.columnIndex?_congr _ column same⟩⟩
  have merged := Catalog.columns_extend Catalog.classroom settings.catalog table
  cases last : settings.catalog.reverse.find? fun entry =>
    Unicode.toLower entry.1 = Unicode.toLower table with
  | some entry =>
    rw [last] at merged
    exact .inl ⟨entry, enters_of_find?_reverse ascending last, merged⟩
  | none =>
    rw [last] at merged
    refine .inr ⟨fun entry member => ?_, merged.trans ?_⟩
    · simpa using List.find?_eq_none.1 last entry (List.mem_reverse.2 member)
    · split_ifs with known
      · rfl
      · exact Catalog.columns_of_not_contains (by simpa using known)

/-- Three entries for one table of the built-in problems, with a label that is given twice. -/
theorem labels_of_parse_users :
    let text := "\x7b\"catalog\": \x7b\"users\": [\"Id\", \"NAME\", \"id\"], " ++
      "\"Users\": [\"uid\"], \"USERS\": [\"x\"]\x7d\x7d"
    let entry := ("users", ["Id", "NAME", "id"])
    let settings : Settings :=
      ⟨.lenient, .exact, .row, [("USERS", ["x"]), ("Users", ["uid"]), entry]⟩
    parse text = .ok settings ∧
      (∃ entry, settings.Enters "uSERS" entry ∧
        settings.labels.columns "uSERS" = entry.2.map Unicode.toLower) ∧
      settings.labels.columns "uSERS" = ["id", "name", "id"] ∧
      settings.labels.columns "Users" = settings.labels.columns "uSERS" ∧
      settings.labels.columnIndex? "uSERS" "ID" = some 0 ∧
      settings.labels.columnIndex? "uSERS" "uid" = none := by
  intro text entry settings
  have accepted : parse text = .ok settings := by decide +kernel
  have labels : settings.labels.columns "uSERS" = ["id", "name", "id"] := by decide +kernel
  obtain ⟨-, entered | ⟨none, -⟩, found, missing, alike⟩ := labels_of_parse accepted "uSERS"
  · refine ⟨accepted, entered, labels, (alike "Users" (by decide +kernel)).1, (found "ID" 0).2 ?_,
      (missing "uid").2 (by decide +kernel)⟩
    exact ⟨by decide +kernel, fun i _ => Nat.zero_le i⟩
  · exact absurd (by decide +kernel) (none entry (by simp [settings]))

end Settings

end SqlGrader
