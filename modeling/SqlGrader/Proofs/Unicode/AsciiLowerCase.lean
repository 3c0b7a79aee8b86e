import SqlGrader.Unicode.LowerCase

/-!
# Lower case and ASCII letters

On ASCII texts the full mapping to lower case is the one from letter to letter. In any text, the
case of the ASCII letters makes no difference to it, also where a sigma is final because of one of
them. Main statement: `toLower_eq_of_sameLetters`.
-/

set_option autoImplicit false

namespace SqlGrader.Unicode

/-- What is checked of the first 128 code points holds of all ASCII characters. -/
theorem holds_of_ascii {p : Char → Prop} (checked : ∀ n < 128, p (Char.ofNat n)) {c : Char}
    (ascii : c.toNat < 128) : p c := by
  have spelled := checked c.toNat ascii
  rwa [Char.ofNat_toNat] at spelled

theorem lowerChar_ascii {c : Char} (ascii : c.toNat < 128) :
    c ≠ 'Σ' ∧ lowerChar c = [c.toLower] :=
  holds_of_ascii (p := fun c => c ≠ 'Σ' ∧ lowerChar c = [c.toLower]) (by decide +kernel) ascii

/-! ## ASCII letters in any text -/

/-- Characters between which the lower case of a text makes no difference. -/
structure LowersLike (c d : Char) : Prop where
  lowered : lowerChar c = lowerChar d
  isSigma : c = 'Σ' ↔ d = 'Σ'
  isCased : cased.contains c = cased.contains d
  isIgnorable : caseIgnorable.contains c = caseIgnorable.contains d

theorem toLower_of_not_ascii {c : Char} (notAscii : ¬ c.toNat < 128) : c.toLower = c := by
  unfold Char.toLower
  refine dif_neg fun upper => notAscii ?_
  have bound : c.toNat ≤ 'Z'.toNat := UInt32.le_iff_toNat_le.1 upper.2
  exact Nat.lt_of_le_of_lt bound (by decide)

/-- An ASCII letter counts like its lower case. -/
theorem lowersLike_toLower (c : Char) : LowersLike c.toLower c := by
  by_cases ascii : c.toNat < 128
  · obtain ⟨asciiToo, again, isCased, isIgnorable⟩ :=
      holds_of_ascii (p := fun c => c.toLower.toNat < 128 ∧ c.toLower.toLower = c.toLower ∧
        cased.contains c.toLower = cased.contains c ∧
        caseIgnorable.contains c.toLower = caseIgnorable.contains c) (by decide +kernel) ascii
    obtain ⟨notSigma, lowered⟩ := lowerChar_ascii ascii
    obtain ⟨notSigmaToo, loweredToo⟩ := lowerChar_ascii asciiToo
    exact ⟨by rw [lowered, loweredToo, again], iff_of_false notSigmaToo notSigma, isCased,
      isIgnorable⟩
  · rw [toLower_of_not_ascii ascii]
    exact ⟨rfl, .rfl, rfl, rfl⟩

theorem facesCased_map_toLower (cs : List Char) :
    facesCased (cs.map Char.toLower) = facesCased cs := by
  induction cs with
  | nil => rfl
  | cons c rest ih =>
    have like := lowersLike_toLower c
    unfold facesCased at ih ⊢
    rw [List.map_cons, List.dropWhile_cons, List.dropWhile_cons, like.isIgnorable]
    by_cases ignored : caseIgnorable.contains c = true
    · simpa only [if_pos ignored] using ih
    · simpa only [if_neg ignored] using like.isCased

theorem lowerFrom_map_toLower (before cs : List Char) :
    lowerFrom (before.map Char.toLower) (cs.map Char.toLower) = lowerFrom before cs := by
  induction cs generalizing before with
  | nil => rfl
  | cons c rest ih =>
    have like := lowersLike_toLower c
    have later := ih (c :: before)
    rw [List.map_cons] at later
    simp only [List.map_cons, lowerFrom, like.isSigma, like.lowered, facesCased_map_toLower, later]

/-- A text has the same lower case as with all its ASCII letters in lower case. -/
theorem toLower_map_toLower (cs : List Char) :
    toLower (String.ofList (cs.map Char.toLower)) = toLower (String.ofList cs) := by
  simp only [toLower, String.toList_ofList]
  exact congrArg String.ofList (lowerFrom_map_toLower [] cs)

/-- Texts that differ in the case of ASCII letters only. -/
def SameLetters (text other : String) : Prop :=
  text.toList.map Char.toLower = other.toList.map Char.toLower

instance (text other : String) : Decidable (SameLetters text other) :=
  inferInstanceAs (Decidable (_ = _))

theorem toLower_eq_of_sameLetters {text other : String} (same : SameLetters text other) :
    toLower text = toLower other := by
  rw [← String.ofList_toList (s := text), ← String.ofList_toList (s := other),
    ← toLower_map_toLower, ← toLower_map_toLower other.toList, same]

end SqlGrader.Unicode
