import SqlGrader.Json.Reader
import SqlGrader.Json.Writer

/-!
# Strings read back

A string is read back from its written form, whatever its characters: each of them is written in
one way that is read as that character, and none is half of a surrogate pair. Main statement:
`nextLexeme?_writeText`.
-/

set_option autoImplicit false

namespace SqlGrader.Json

/-- The two hexadecimal digits of a control character are read as its code point. -/
theorem hexUnit?_digitChar {n : Nat} (control : n < 0x20) :
    hexUnit? '0' '0' (Nat.digitChar (n / 16)) (Nat.digitChar (n % 16)) = some n := by
  have all : ∀ n : Fin 0x20,
      hexUnit? '0' '0' (Nat.digitChar (n / 16)) (Nat.digitChar (n % 16)) = some n.val := by
    decide
  exact all ⟨n, control⟩

/-- The forms in which a character is written inside a string. -/
inductive Written (c : Char) : List Char → Prop where
  | escaped {e : Char} (stands : escaped? e = some c) : Written c ['\\', e]
  | unit (control : c.toNat < 0x20) :
      Written c
        ['\\', 'u', '0', '0', Nat.digitChar (c.toNat / 16), Nat.digitChar (c.toNat % 16)]
  | itself (quote : c ≠ '"') (backslash : c ≠ '\\') (printed : 0x20 ≤ c.toNat) : Written c [c]

theorem written_writeChar (c : Char) : Written c (writeChar c) := by
  unfold writeChar
  split
  · rename_i quote
    subst quote
    exact .escaped rfl
  rename_i quote
  split
  · rename_i backslash
    subst backslash
    exact .escaped rfl
  rename_i backslash
  split
  · rename_i backspace
    subst backspace
    exact .escaped rfl
  split
  · rename_i formFeed
    subst formFeed
    exact .escaped rfl
  split
  · rename_i lineFeed
    subst lineFeed
    exact .escaped rfl
  split
  · rename_i carriageReturn
    subst carriageReturn
    exact .escaped rfl
  split
  · rename_i tab
    subst tab
    exact .escaped rfl
  split
  · rename_i control
    exact .unit control
  · rename_i printed
    exact .itself quote backslash (Nat.le_of_not_lt printed)

/-- A character is read from each form in which it is written. -/
theorem Written.readUnits? {c : Char} {form : List Char} (written : Written c form)
    (rest : List Char) :
    readUnits? (form ++ rest) =
      (Json.readUnits? rest).map fun (units, rest) => (c.toNat :: units, rest) := by
  cases written with
  | @escaped e stands =>
    have letter : e ≠ 'u' := by
      rintro rfl
      cases stands
    rw [List.cons_append, List.cons_append, List.nil_append,
      Json.readUnits?.eq_def ('\\' :: e :: rest)]
    simp only [Char.reduceEq, if_false, if_true]
    split
    · rename_i same
      cases same
      exact absurd rfl letter
    · rename_i same
      cases same
      rw [stands]
      cases Json.readUnits? rest <;> rfl
    · rename_i same
      cases same
  | unit control =>
    have digits := hexUnit?_digitChar control
    simp only [List.cons_append, List.nil_append]
    rw [Json.readUnits?.eq_def ('\\' :: _)]
    simp only [Char.reduceEq, if_false, if_true, digits]
    cases Json.readUnits? rest <;> rfl
  | itself quote backslash printed =>
    have noControl : ¬ c.toNat < 0x20 := Nat.not_lt_of_le printed
    rw [List.cons_append, List.nil_append, Json.readUnits?.eq_def (c :: rest)]
    simp only [quote, backslash, noControl, if_false]

/-- The characters of a string are read up to its closing quote. -/
theorem readUnits?_flatMap (text rest : List Char) :
    readUnits? (text.flatMap writeChar ++ '"' :: rest) = some (text.map Char.toNat, rest) := by
  induction text with
  | nil =>
    rw [List.flatMap_nil, List.nil_append, readUnits?.eq_def]
    rfl
  | cons c text ih =>
    rw [List.flatMap_cons, List.append_assoc, (written_writeChar c).readUnits?, ih]
    rfl

/-- No character is half of a surrogate pair. -/
theorem not_half (c : Char) : isHighHalf c.toNat = false ∧ isLowHalf c.toNat = false := by
  have scalar : c.toNat < 0xD800 ∨ 0xDFFF < c.toNat ∧ c.toNat < 0x110000 := c.valid
  simp only [isHighHalf, isLowHalf, Bool.and_eq_false_iff, decide_eq_false_iff_not]
  omega

theorem joinHalves?_toNat (text : List Char) : joinHalves? (text.map Char.toNat) = some text := by
  induction text with
  | nil => rfl
  | cons c text ih =>
    obtain ⟨high, low⟩ := not_half c
    cases text with
    | nil => simp [joinHalves?, high, low]
    | cons d text =>
      rw [List.map_cons] at ih ⊢
      rw [List.map_cons, joinHalves?, high, low, ih]
      simp

/-- A written text is read as one lexeme. -/
theorem nextLexeme?_writeText (text : String) (rest : List Char) :
    ∃ body, writeText (some text) ++ rest = '"' :: body ∧
      nextLexeme? '"' body = some (.scalar (.string (some text)), rest) := by
  refine ⟨text.toList.flatMap writeChar ++ '"' :: rest, ?_, ?_⟩
  · simp [writeText, writeString]
  · have units := readUnits?_flatMap text.toList rest
    have joined := joinHalves?_toNat text.toList
    simp [nextLexeme?, units, joined]

end SqlGrader.Json
