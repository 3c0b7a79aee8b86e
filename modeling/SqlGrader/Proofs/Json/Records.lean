import SqlGrader.Json.Fields
import SqlGrader.Proofs.Json.Numerals

/-!
# Records and lists read back

The values that readers take apart again: texts, truth values, words, arrays of such values, and
records, of which each field is found by its name (`fields?_record`). What holds of all
that a reader reads holds of the items of a list (`forall_of_asList?`).
-/

set_option autoImplicit false

namespace SqlGrader.Json.Value

/-! ## Nesting -/

mutual

/-- What can be read at a depth can be read at any greater one. -/
theorem isReadable_mono {depth depth' : Nat} (deeper : depth ≤ depth') :
    ∀ {v : Value}, v.isReadable depth = true → v.isReadable depth' = true
  | null, _ | bool _, _ => rfl
  | number _, readable | string _, readable => readable
  | array items, readable => by
    simp only [isReadable, Bool.and_eq_true, decide_eq_true_eq] at readable ⊢
    exact ⟨by omega, itemsReadable_mono (by omega) readable.2⟩
  | object members, readable => by
    simp only [isReadable, Bool.and_eq_true, decide_eq_true_eq] at readable ⊢
    exact ⟨by omega, membersReadable_mono (by omega) readable.2⟩

theorem itemsReadable_mono {depth depth' : Nat} (deeper : depth ≤ depth') :
    ∀ {items : List Value}, itemsReadable depth items = true → itemsReadable depth' items = true
  | [], _ => rfl
  | v :: rest, readable => by
    simp only [itemsReadable, Bool.and_eq_true] at readable ⊢
    exact ⟨isReadable_mono deeper readable.1, itemsReadable_mono deeper readable.2⟩

theorem membersReadable_mono {depth depth' : Nat} (deeper : depth ≤ depth') :
    ∀ {members : List (Option String × Value)},
      membersReadable depth members = true → membersReadable depth' members = true
  | [], _ => rfl
  | (key?, v) :: rest, readable => by
    simp only [membersReadable, Bool.and_eq_true] at readable ⊢
    exact ⟨⟨readable.1.1, isReadable_mono deeper readable.1.2⟩,
      membersReadable_mono deeper readable.2⟩

end

theorem itemsReadable_eq_true_iff {depth : Nat} {items : List Value} :
    itemsReadable depth items = true ↔ ∀ v ∈ items, v.isReadable depth = true := by
  induction items with
  | nil => simp [itemsReadable]
  | cons v rest ih => simp [itemsReadable, ih]

theorem record_eq (members : List (String × Value)) :
    record members = object (members.map fun member => (some member.1, member.2)) :=
  rfl

theorem membersReadable_map {depth : Nat} {members : List (String × Value)} :
    membersReadable depth (members.map fun member => (some member.1, member.2)) = true ↔
      ∀ member ∈ members, member.2.isReadable depth = true := by
  induction members with
  | nil => simp [membersReadable]
  | cons member rest ih => simp [membersReadable, ih]

/-- A record is nested one level deeper than its fields. -/
theorem isReadable_record_iff {depth : Nat} {members : List (String × Value)} :
    (record members).isReadable (depth + 1) = true ↔
      ∀ member ∈ members, member.2.isReadable depth = true := by
  simp only [record_eq, isReadable, Nat.zero_lt_succ, decide_true, Bool.true_and,
    Nat.add_sub_cancel, membersReadable_map]

/-! ## Values and what they stand for -/

/-- A value that is read as `x`, and that is nested no deeper than `depth`. -/
structure StandsFor {α : Type} (read : Value → Option α) (depth : Nat) (v : Value) (x : α) :
    Prop where
  readable : v.isReadable depth = true
  reads : read v = some x

section

variable {α : Type} {read : Value → Option α} {depth : Nat}

@[simp] theorem asText?_text (s : String) : asText? (text s) = some s :=
  rfl

@[simp] theorem asBool?_bool (b : Bool) : asBool? (bool b) = some b :=
  rfl

theorem standsFor_text (s : String) : StandsFor asText? depth (text s) s :=
  ⟨rfl, rfl⟩

theorem standsFor_word {n : Nat} (small : n < UInt32.size) :
    StandsFor asWord? depth (ofNat n) n := by
  have bound : UInt32.size = 4294967296 := rfl
  have size : UInt64.size = 18446744073709551616 := rfl
  have number : number? (String.ofList (Text.integerText n)) = some (.natural n) := by
    rw [number?_integerText (by omega) (by omega), if_neg (by omega), Int.natAbs_natCast]
  constructor
  · exact Option.isSome_iff_exists.2 ⟨_, number⟩
  · simp only [ofNat, ofInt, asWord?, number, small, if_true]

/-- Items that can each be read are read as a list. -/
theorem mapM_map_eq_some {β γ : Type} {f : β → Option γ} {write : α → β} {g : α → γ}
    {xs : List α} (each : ∀ x ∈ xs, f (write x) = some (g x)) :
    (xs.map write).mapM f = some (xs.map g) := by
  induction xs with
  | nil => rfl
  | cons x rest ih =>
    obtain ⟨first, others⟩ := List.forall_mem_cons.1 each
    simp [first, ih others]

/-- An array stands for the list of what its items stand for. -/
theorem standsFor_array {write : α → Value} {xs : List α}
    (each : ∀ x ∈ xs, StandsFor read depth (write x) x) :
    StandsFor (asList? read) (depth + 1) (array (xs.map write)) xs := by
  constructor
  · simp only [isReadable, Nat.zero_lt_succ, decide_true, Bool.true_and, Nat.add_sub_cancel]
    exact itemsReadable_eq_true_iff.2
      (List.forall_mem_map.2 fun x member => (each x member).readable)
  · have items := mapM_map_eq_some (g := id) fun x member => (each x member).reads
    rwa [List.map_id] at items

theorem lookup_map_some (members : List (String × Value)) (name : String) :
    (members.map fun member => (some member.1, member.2)).lookup (some name) =
      members.lookup name := by
  induction members with
  | nil => rfl
  | cons member rest ih =>
    obtain ⟨key, v⟩ := member
    simp [List.lookup_cons, ih]

/-- In a record that names no field twice, each field is found by its name. -/
theorem fields?_record {members : List (String × Value)} (once : (members.map Prod.fst).Nodup)
    (names : List String) :
    (record members).fields? names = some (names.map fun name => members.lookup name) := by
  have keys : keys? (members.map fun member => (some member.1, member.2)) =
      some (members.map Prod.fst) :=
    mapM_map_eq_some fun _ _ => rfl
  have all : (names.all fun name => (members.map Prod.fst).count name ≤ 1) = true := by
    simp [List.nodup_iff_count.1 once]
  simp only [record_eq, fields?, keys, all, if_true, lookup_map_some]

/-! ## What is read -/

/-- What holds of whatever is read of an item holds of all that is read of a list. -/
theorem forall_of_mapM {β : Type} {f : β → Option α} {P : α → Prop}
    (each : ∀ item x, f item = some x → P x) {items : List β} {xs : List α}
    (found : items.mapM f = some xs) : ∀ x ∈ xs, P x := by
  induction items generalizing xs with
  | nil =>
    cases found
    exact List.forall_mem_nil _
  | cons item rest ih =>
    rw [List.mapM_cons] at found
    obtain ⟨x, first, found⟩ := Option.bind_eq_some_iff.1 found
    obtain ⟨others, last, found⟩ := Option.bind_eq_some_iff.1 found
    cases found
    exact List.forall_mem_cons.2 ⟨each item x first, ih last⟩

theorem forall_of_asList? {P : α → Prop} (each : ∀ v x, read v = some x → P x) {v : Value}
    {xs : List α} (found : asList? read v = some xs) : ∀ x ∈ xs, P x := by
  cases v with
  | array items => exact forall_of_mapM each found
  | _ => cases found

/-- A field that is not the default has been read. -/
theorem exists_of_optional {default x : α} {field? : Option Value} (other : x ≠ default)
    (found : optional default read field? = some x) : ∃ v, read v = some x := by
  cases field? with
  | none =>
    cases found
    exact absurd rfl other
  | some v => exact ⟨v, found⟩

theorem exists_of_required {x : α} {field? : Option Value}
    (found : required read field? = some x) : ∃ v, read v = some x := by
  obtain ⟨v, -, found⟩ := Option.bind_eq_some_iff.1 found
  exact ⟨v, found⟩

theorem lt_of_asWord? {v : Value} {n : Nat} (found : asWord? v = some n) : n < UInt32.size := by
  unfold asWord? at found
  split at found
  · split at found
    · split at found
      · rename_i small
        cases found
        exact small
      · cases found
    · cases found
  · cases found

end

end SqlGrader.Json.Value
