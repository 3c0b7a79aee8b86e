import SqlGrader.Proofs.Json.Numerals
import SqlGrader.Proofs.Json.Strings

/-!
# Values read back

A value whose strings and numbers can be read is read back from its text without blanks. The text
spells the signs and scalars of the value (`spells_compact`), and the machine puts them together
again, whatever is open around the value (`run_lexemes`). Main statement: `parse?_render`.
-/

set_option autoImplicit false

namespace SqlGrader.Json

/-! ## Lexemes -/

/-- A text that is cut into given lexemes in front of whatever does not continue a numeral. -/
def Spells (text : List Char) (lexemes : List Lexeme) : Prop :=
  ∀ rest, (∀ c, rest.head? = some c → Numeral.isNumeralChar c = false) →
    lexemes? (text ++ rest) = (lexemes? rest).map (lexemes ++ ·)

theorem lexemes?_cons {c : Char} {cs rest : List Char} {lexeme : Lexeme}
    (printed : isBlank c = false) (next : nextLexeme? c cs = some (lexeme, rest)) :
    lexemes? (c :: cs) = (lexemes? rest).map (lexeme :: ·) := by
  rw [lexemes?, printed]
  simp only [Bool.false_eq_true, if_false]
  split
  · rename_i none?
    rw [none?] at next
    cases next
  · rename_i some?
    rw [some?] at next
    cases next
    rfl

/-- A character that is a lexeme of its own. -/
structure IsSign (c : Char) (lexeme : Lexeme) : Prop where
  printed : isBlank c = false
  delimits : Numeral.isNumeralChar c = false
  alone : ∀ rest, nextLexeme? c rest = some (lexeme, rest)

theorem isSign_openArray : IsSign '[' .openArray := ⟨rfl, rfl, fun _ => rfl⟩

theorem isSign_closeArray : IsSign ']' .closeArray := ⟨rfl, rfl, fun _ => rfl⟩

theorem isSign_openObject : IsSign '\x7b' .openObject := ⟨rfl, rfl, fun _ => rfl⟩

theorem isSign_closeObject : IsSign '\x7d' .closeObject := ⟨rfl, rfl, fun _ => rfl⟩

theorem isSign_comma : IsSign ',' .comma := ⟨rfl, rfl, fun _ => rfl⟩

theorem isSign_colon : IsSign ':' .colon := ⟨rfl, rfl, fun _ => rfl⟩

variable {text text' : List Char} {signs signs' : List Lexeme}

theorem Spells.nil : Spells [] [] := by
  intro rest stop
  simp

theorem Spells.sign {c : Char} {lexeme : Lexeme} (sign : IsSign c lexeme)
    (spells : Spells text signs) : Spells (c :: text) (lexeme :: signs) := by
  intro rest stop
  rw [List.cons_append, lexemes?_cons sign.printed (sign.alone _), spells rest stop,
    Option.map_map]
  rfl

/-- A sign ends what stands in front of it. -/
theorem Spells.append {c : Char} {lexeme : Lexeme} (spells : Spells text signs)
    (sign : IsSign c lexeme) (spells' : Spells text' signs') :
    Spells (text ++ c :: text') (signs ++ lexeme :: signs') := by
  intro rest stop
  have ended : ∀ d, (c :: text' ++ rest).head? = some d → Numeral.isNumeralChar d = false := by
    intro d next
    cases next
    exact sign.delimits
  rw [List.append_assoc, spells _ ended, spells'.sign sign rest stop, Option.map_map]
  simp [Function.comp_def]

/-! ## Scalars -/

theorem nextLexeme?_numeral {c : Char} {rest : List Char} (first : c = '-' ∨ c.isDigit = true) :
    nextLexeme? c rest =
      if (Numeral.read? (c :: rest.takeWhile Numeral.isNumeralChar)).isSome then
        some (.scalar (.number (String.ofList (c :: rest.takeWhile Numeral.isNumeralChar))),
          rest.dropWhile Numeral.isNumeralChar)
      else none := by
  rcases first with rfl | digit
  · rfl
  · unfold nextLexeme?
    split
    case h_11 => rfl
    all_goals exact absurd digit (by decide)

theorem not_blank_of_numeral {c : Char} (first : c = '-' ∨ c.isDigit = true) :
    isBlank c = false := by
  rcases first with rfl | digit
  · rfl
  · apply Bool.eq_false_iff.2
    intro blank
    simp only [isBlank, Bool.or_eq_true, decide_eq_true_eq] at blank
    rcases blank with ((rfl | rfl) | rfl) | rfl <;> cases digit

theorem spells_word {c : Char} {cs : List Char} {value : Value} (printed : isBlank c = false)
    (word : ∀ rest, nextLexeme? c (cs ++ rest) = some (.scalar value, rest)) :
    Spells (c :: cs) [.scalar value] :=
  fun rest _ => lexemes?_cons printed (word rest)

theorem spells_number {numeral : String} {n : Number} (h : Value.number? numeral = some n) :
    Spells numeral.toList [.scalar (.number numeral)] := by
  obtain ⟨parts, read, -⟩ := Option.bind_eq_some_iff.1 h
  obtain ⟨⟨c, cs, text, first⟩, characters⟩ := Numeral.characters_of_read? read
  rw [text] at read characters ⊢
  have inside := (List.forall_mem_cons.1 characters).2
  intro rest stop
  obtain ⟨front, back⟩ := Text.takeWhile_front rest inside stop
  have next : nextLexeme? c (cs ++ rest) = some (.scalar (.number numeral), rest) := by
    rw [nextLexeme?_numeral first, front, back, read, ← text, String.ofList_toList]
    rfl
  rw [List.cons_append, lexemes?_cons (not_blank_of_numeral first) next]
  rfl

theorem spells_text (text : String) :
    Spells (writeText (some text)) [.scalar (.string (some text))] := by
  intro rest stop
  obtain ⟨body, form, next⟩ := nextLexeme?_writeText text rest
  rw [form, lexemes?_cons rfl next]
  rfl

/-! ## Values -/

namespace Value

mutual

/-- The signs and scalars of a value. -/
def lexemes : Value → List Lexeme
  | array items => .openArray :: itemLexemes items ++ [.closeArray]
  | object members => .openObject :: memberLexemes members ++ [.closeObject]
  | v => [.scalar v]

def itemLexemes : List Value → List Lexeme
  | [] => []
  | [v] => lexemes v
  | v :: rest => lexemes v ++ .comma :: itemLexemes rest

def memberLexemes : List (Option String × Value) → List Lexeme
  | [] => []
  | [(key?, v)] => .scalar (.string key?) :: .colon :: lexemes v
  | (key?, v) :: rest =>
    .scalar (.string key?) :: .colon :: lexemes v ++ .comma :: memberLexemes rest

end

mutual

/-- The text of a readable value is cut into the lexemes of the value. -/
theorem spells_compact {depth : Nat} : ∀ {v : Value}, v.isReadable depth = true →
    Spells v.compact v.lexemes
  | null, _ => spells_word rfl fun _ => rfl
  | bool true, _ => spells_word rfl fun _ => rfl
  | bool false, _ => spells_word rfl fun _ => rfl
  | number numeral, readable => by
    obtain ⟨n, value⟩ := Option.isSome_iff_exists.1 readable
    exact spells_number value
  | string text?, readable => by
    obtain ⟨text, rfl⟩ := Option.isSome_iff_exists.1 readable
    exact spells_text text
  | array items, readable => by
    have inside : itemsReadable (depth - 1) items = true := by
      simp only [isReadable, Bool.and_eq_true] at readable
      exact readable.2
    exact .sign isSign_openArray (.append (spells_compactItems inside) isSign_closeArray .nil)
  | object members, readable => by
    have inside : membersReadable (depth - 1) members = true := by
      simp only [isReadable, Bool.and_eq_true] at readable
      exact readable.2
    exact .sign isSign_openObject (.append (spells_compactMembers inside) isSign_closeObject .nil)

theorem spells_compactItems {depth : Nat} : ∀ {items : List Value},
    itemsReadable depth items = true → Spells (compactItems items) (itemLexemes items)
  | [], _ => .nil
  | [v], readable => by
    rw [itemsReadable, Bool.and_eq_true] at readable
    exact spells_compact readable.1
  | v :: w :: rest, readable => by
    rw [itemsReadable, Bool.and_eq_true] at readable
    exact .append (spells_compact readable.1) isSign_comma (spells_compactItems readable.2)

theorem spells_compactMembers {depth : Nat} : ∀ {members : List (Option String × Value)},
    membersReadable depth members = true → Spells (compactMembers members) (memberLexemes members)
  | [], _ => .nil
  | [(key?, v)], readable => by
    simp only [membersReadable, Bool.and_eq_true] at readable
    obtain ⟨key, rfl⟩ := Option.isSome_iff_exists.1 readable.1.1
    exact .append (spells_text key) isSign_colon (spells_compact readable.1.2)
  | (key?, v) :: member :: rest, readable => by
    rw [membersReadable, Bool.and_eq_true, Bool.and_eq_true] at readable
    obtain ⟨key, rfl⟩ := Option.isSome_iff_exists.1 readable.1.1
    exact .append (.append (spells_text key) isSign_colon (spells_compact readable.1.2))
      isSign_comma (spells_compactMembers readable.2)

end

def run (m : Machine) (signs : List Lexeme) : Option Machine :=
  signs.foldlM Machine.step m

theorem run_append (m : Machine) (signs signs' : List Lexeme) :
    run m (signs ++ signs') = (run m signs).bind (run · signs') :=
  List.foldlM_append

/-- The first item of an array is read like any other. -/
theorem run_itemOrClose (v : Value) (frames : List Frame) (signs : List Lexeme) :
    run ⟨.array [] :: frames, .itemOrClose⟩ (v.lexemes ++ signs) =
      run ⟨.array [] :: frames, .value⟩ (v.lexemes ++ signs) := by
  cases v <;> rfl

/-- The lexemes of items begin with those of the first one. -/
theorem itemLexemes_cons (v : Value) (rest : List Value) :
    ∃ signs, itemLexemes (v :: rest) = v.lexemes ++ signs := by
  cases rest with
  | nil => exact ⟨[], (List.append_nil _).symm⟩
  | cons w rest => exact ⟨_, rfl⟩

/-- The first key of an object is read like any other. -/
theorem run_keyOrClose (member : Option String × Value) (rest : List (Option String × Value))
    (frames : List Frame) (signs : List Lexeme) :
    run ⟨frames, .keyOrClose⟩ (memberLexemes (member :: rest) ++ signs) =
      run ⟨frames, .key []⟩ (memberLexemes (member :: rest) ++ signs) := by
  cases rest <;> rfl

/-- A key and its colon open a member. -/
theorem run_key (key? : Option String) (frames : List Frame)
    (before : List (Option String × Value)) (signs : List Lexeme) :
    run ⟨frames, .key before⟩ (.scalar (.string key?) :: .colon :: signs) =
      run ⟨.object before key? :: frames, .value⟩ signs :=
  rfl

mutual

/-- The machine puts a value together from its lexemes, whatever is open around it. -/
theorem run_lexemes : ∀ (v : Value) (frames : List Frame),
    run ⟨frames, .value⟩ v.lexemes = some ⟨frames, .after v⟩
  | null, _ | bool _, _ | number _, _ | string _, _ | array [], _ | object [], _ => rfl
  | array (v :: rest), frames => by
    have items := run_itemLexemes (v :: rest) [] frames (List.cons_ne_nil v rest)
    obtain ⟨signs, first⟩ := itemLexemes_cons v rest
    rw [first, List.append_assoc, ← run_itemOrClose, ← List.append_assoc, ← first] at items
    exact items
  | object (member :: rest), frames => by
    have members := run_memberLexemes (member :: rest) [] frames (List.cons_ne_nil member rest)
    rw [← run_keyOrClose] at members
    exact members

/-- The machine adds items to those it has of an array. -/
theorem run_itemLexemes : ∀ (items before : List Value) (frames : List Frame), items ≠ [] →
    run ⟨.array before :: frames, .value⟩ (itemLexemes items ++ [.closeArray]) =
      some ⟨frames, .after (.array (before.reverse ++ items))⟩
  | [], _, _, some? => absurd rfl some?
  | [v], before, frames, _ => by
    rw [← List.reverse_cons]
    change run _ (v.lexemes ++ [.closeArray]) = _
    rw [run_append, run_lexemes v]
    rfl
  | v :: w :: rest, before, frames, _ => by
    have others := run_itemLexemes (w :: rest) (v :: before) frames (List.cons_ne_nil w rest)
    rw [List.reverse_cons, List.append_assoc] at others
    change run _ ((v.lexemes ++ .comma :: itemLexemes (w :: rest)) ++ _) = _
    rw [List.append_assoc, run_append, run_lexemes v]
    exact others

/-- The machine adds members to those it has of an object. -/
theorem run_memberLexemes : ∀ (members before : List (Option String × Value))
    (frames : List Frame), members ≠ [] →
    run ⟨frames, .key before⟩ (memberLexemes members ++ [.closeObject]) =
      some ⟨frames, .after (.object (before.reverse ++ members))⟩
  | [], _, _, some? => absurd rfl some?
  | [(key?, v)], before, frames, _ => by
    rw [← List.reverse_cons]
    change run _ (.scalar (.string key?) :: .colon :: (v.lexemes ++ [.closeObject])) = _
    rw [run_key, run_append, run_lexemes v]
    rfl
  | (key?, v) :: member :: rest, before, frames, _ => by
    have others := run_memberLexemes (member :: rest) ((key?, v) :: before) frames
      (List.cons_ne_nil member rest)
    rw [List.reverse_cons, List.append_assoc] at others
    change run _ (.scalar (.string key?) :: .colon ::
      ((v.lexemes ++ .comma :: memberLexemes (member :: rest)) ++ _)) = _
    rw [run_key, List.append_assoc, run_append, run_lexemes v]
    exact others

end

end Value

/-- A readable value is read back from its text without blanks. -/
theorem parse?_render {v : Value} {depth : Nat} (readable : v.isReadable depth = true) :
    parse? v.render = some v := by
  have cut := Value.spells_compact readable [] (by simp)
  rw [List.append_nil, lexemes?, Option.map_some, List.append_nil] at cut
  have machine := Value.run_lexemes v []
  unfold parse? Value.render
  rw [String.toList_ofList, cut, Option.bind_some]
  unfold Value.run at machine
  rw [machine]

end SqlGrader.Json
