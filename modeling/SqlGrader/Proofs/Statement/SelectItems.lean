import SqlGrader.Proofs.Statement.Insertions

/-!
# The grammar of select items

A select item runs up to the first comma or `FROM` outside parentheses, and what it says is told
from its tokens alone, up to the text that is kept of an item that is not recognised. Main
statements: the readers of one item and of a list of them, in front of `FROM`
(`outline_of_selectItems`, `exists_selectItems`).
-/

set_option autoImplicit false

namespace SqlGrader

/-- An item without the text of what is not recognised. -/
def SelectItem.outline : SelectItem → SelectItem
  | .expression _ => .expression ""
  | item => item

namespace Parser

/-- The depth of parentheses behind a token of a select item, if the token does not end the
item. -/
def depthBehind? (depth : Nat) : TokenKind → Option Nat
  | .leftParen => some (depth + 1)
  | .rightParen => some (depth - 1)
  | .comma | .keyword .FROM => if depth = 0 then none else some depth
  | .semicolon | .eof => none
  | _ => some depth

/-- Kinds that make up one select item: parentheses close, and no comma or `FROM` stands outside
them. -/
structure SpellsItem (kinds : List TokenKind) (item : SelectItem) : Prop where
  nonempty : kinds ≠ []
  closed : kinds.foldlM depthBehind? 0 = some 0
  read : item = (aliasedItemOf? kinds).getD (.expression "")

/-- What stands behind a select item that does not end the statement. -/
def EndsItem (tokens : List Token) : Prop :=
  nextKind? tokens = some .comma ∨ nextKind? tokens = some (.keyword .FROM)

theorem nextKind?_of_front {kind : TokenKind} {kinds : List TokenKind} {tokens rest : List Token}
    (h : Front (kind :: kinds) tokens rest) : nextKind? tokens = some kind := by
  obtain ⟨t, tail, rfl, same, -⟩ := front_cons.1 h
  exact congrArg some same

theorem splitItem_cons (depth : Nat) (t : Token) (rest : List Token) :
    splitItem depth (t :: rest) =
      match depthBehind? depth t.kind with
      | none => ([], t :: rest)
      | some inner => (splitItem inner rest).map (t :: ·) id := by
  rw [splitItem]
  split <;> rename_i kind
  · rw [kind]; rfl
  · rw [kind]; rfl
  · rw [kind]
    simp only [depthBehind?]
    split <;> rfl
  · rw [kind]
    simp only [depthBehind?]
    split <;> rfl
  · rw [kind]; rfl
  · rw [kind]; rfl
  · have inside : depthBehind? depth t.kind = some depth := by
      unfold depthBehind?
      split <;> simp_all
    rw [inside]

theorem depthBehind?_eq_none {tokens : List Token} {t : Token} (h : EndsItem (t :: tokens))
    {depth : Nat} : depthBehind? depth t.kind = none ↔ depth = 0 := by
  have first : t.kind = .comma ∨ t.kind = .keyword .FROM := by simpa [EndsItem, nextKind?] using h
  rcases first with same | same <;> simp [depthBehind?, same]

/-- An item is split off exactly in front of the first comma or `FROM` outside parentheses. -/
theorem splitItem_eq_iff {depth : Nat} {tokens item rest : List Token} (stop : EndsItem rest) :
    splitItem depth tokens = (item, rest) ↔
      tokens = item ++ rest ∧ (item.map (·.kind)).foldlM depthBehind? depth = some 0 := by
  induction tokens generalizing depth item with
  | nil =>
    have notEmpty : rest ≠ [] := by
      rintro rfl
      simp [EndsItem, nextKind?] at stop
    simp [splitItem, Ne.symm notEmpty, notEmpty]
  | cons t tail ih =>
    rw [splitItem_cons]
    cases item with
    | nil =>
      simp only [List.nil_append, List.map_nil, List.foldlM_nil]
      constructor
      · intro h
        split at h
        · rename_i ended
          obtain ⟨-, rfl⟩ := Prod.mk.inj h
          exact ⟨rfl, congrArg some ((depthBehind?_eq_none stop).1 ended)⟩
        · cases (Prod.mk.inj h).1
      · rintro ⟨whole, outside⟩
        subst whole
        rw [(depthBehind?_eq_none stop).2 (Option.some.inj outside)]
    | cons u item =>
      simp only [List.map_cons, List.foldlM_cons, List.cons_append, List.cons.injEq]
      constructor
      · intro h
        split at h
        · cases (Prod.mk.inj h).1
        · rename_i inner goes
          obtain ⟨same, behind⟩ := Prod.mk.inj h
          obtain ⟨rfl, rfl⟩ := List.cons.inj same
          obtain ⟨whole, closed⟩ := ih.1 (Prod.ext rfl behind)
          exact ⟨⟨rfl, whole⟩, by rw [goes]; exact closed⟩
      · rintro ⟨⟨same, whole⟩, closed⟩
        subst same
        obtain ⟨inner, goes, closed⟩ := Option.bind_eq_some_iff.1 closed
        have split := ih.2 ⟨whole, closed⟩
        simp [goes, split]

/-- Neither a semicolon nor the end of the text stands in a select item. -/
theorem inside_of_depth {kinds : List TokenKind} {depth closed : Nat}
    (h : kinds.foldlM depthBehind? depth = some closed) : Inside kinds := by
  induction kinds generalizing depth with
  | nil => simp
  | cons kind kinds ih =>
    obtain ⟨inner, goes, h⟩ := Option.bind_eq_some_iff.1 h
    refine inside_cons.2 ⟨⟨?_, ?_⟩, ih h⟩ <;>
    · rintro rfl
      cases goes

theorem inside_of_items {kinds : List TokenKind} {items : List SelectItem}
    (h : Separated SpellsItem kinds items) : Inside kinds := by
  induction h with
  | last one => exact inside_of_depth one.closed
  | cons one _ ih => simp [inside_of_depth one.closed, ih]

theorem outline_of_itemOf? {kinds : List TokenKind} {item : SelectItem}
    (h : itemOf? kinds = some item) : item.outline = item := by
  unfold itemOf? at h
  split at h <;> cases h <;> rfl

/-- A recognised item has no text. -/
theorem outline_of_aliasedItemOf? {kinds : List TokenKind} {item : SelectItem}
    (h : aliasedItemOf? kinds = some item) : item.outline = item := by
  rcases Option.or_eq_some_iff.1 h with read | ⟨-, read⟩
  · exact outline_of_itemOf? read
  · obtain ⟨body, -, read⟩ := Option.bind_eq_some_iff.1 read
    exact outline_of_itemOf? read

theorem outline_getD (kinds : List TokenKind) (text : String) :
    ((aliasedItemOf? kinds).getD (.expression text)).outline =
      (aliasedItemOf? kinds).getD (.expression "") := by
  cases read : aliasedItemOf? kinds with
  | none => rfl
  | some item => exact outline_of_aliasedItemOf? read

variable {source : List Char} {tokens rest : List Token}

theorem outline_of_selectItem {item : SelectItem}
    (read : selectItem source tokens = .ok (item, rest)) (stop : EndsItem rest) :
    ∃ kinds, SpellsItem kinds item.outline ∧ Front kinds tokens rest := by
  unfold selectItem at read
  cases cut : splitItem 0 tokens with
  | mk taken behind =>
    rw [cut] at read
    cases taken with
    | nil => cases read
    | cons first others =>
      obtain ⟨rfl, rfl⟩ := Prod.mk.inj (Except.ok.inj read)
      obtain ⟨whole, closed⟩ := (splitItem_eq_iff stop).1 cut
      exact ⟨_, ⟨by simp, closed, outline_getD _ _⟩, first :: others, whole, rfl⟩

theorem exists_selectItem {kinds : List TokenKind} {outline : SelectItem}
    (spelled : SpellsItem kinds outline) (front : Front kinds tokens rest) (stop : EndsItem rest) :
    ∃ item, selectItem source tokens = .ok (item, rest) ∧ item.outline = outline := by
  obtain ⟨nonempty, closed, rfl⟩ := spelled
  obtain ⟨item, whole, rfl⟩ := front
  have split := (splitItem_eq_iff stop).2 ⟨whole, closed⟩
  refine ⟨_, ?_, outline_getD _ (textBetween source tokens rest)⟩
  cases item with
  | nil => exact absurd rfl nonempty
  | cons first others => simp only [selectItem, split]

theorem selectItems_step {items : List SelectItem} :
    selectItems source tokens = .ok (items, rest) ↔
      ∃ first after, selectItem source tokens = .ok (first, after) ∧
        ((skip? .comma after = none ∧ items = [first] ∧ rest = after) ∨
          ∃ next others, skip? .comma after = some next ∧
            selectItems source next = .ok (others, rest) ∧ items = first :: others) := by
  rw [selectItems]
  constructor
  · intro h
    split at h
    · cases h
    rename_i first after read
    refine ⟨first, after, read, ?_⟩
    split at h
    · rename_i none?
      cases h
      exact .inl ⟨none?, rfl, rfl⟩
    · rename_i next some?
      split at h
      · cases h
      · rename_i others last more
        cases h
        exact .inr ⟨next, others, some?, more, rfl⟩
  · rintro ⟨first, after, read, continues⟩
    split
    · rename_i failed
      rw [read] at failed
      cases failed
    · rename_i taken left takes
      obtain ⟨rfl, rfl⟩ : first = taken ∧ after = left := by simpa [read] using takes
      rcases continues with ⟨none?, rfl, rfl⟩ | ⟨next, others, some?, more, rfl⟩
      · split
        · rfl
        · rename_i some?
          rw [none?] at some?
          cases some?
      · split
        · rename_i none?
          rw [none?] at some?
          cases some?
        · rename_i skipped
          rw [some?, Option.some.injEq] at skipped
          subst skipped
          simp only [more]

theorem outline_of_selectItems {items : List SelectItem}
    (read : selectItems source tokens = .ok (items, rest))
    (stop : nextKind? rest = some (.keyword .FROM)) :
    ∃ kinds, Separated SpellsItem kinds (items.map .outline) ∧ Front kinds tokens rest := by
  induction size : tokens.length using Nat.strongRecOn generalizing tokens items with
  | ind size ih =>
    obtain ⟨first, after, item, ⟨last, rfl, rfl⟩ | ⟨next, others, comma, more, rfl⟩⟩ :=
      selectItems_step.1 read
    · obtain ⟨kinds, spelled, front⟩ := outline_of_selectItem item (.inr stop)
      exact ⟨kinds, .last spelled, front⟩
    · have behind := skip?_eq_some_iff.1 comma
      obtain ⟨kinds, spelled, front⟩ :=
        outline_of_selectItem item (.inl (nextKind?_of_front behind))
      have shorter := length_of_skip? comma
      have shorter' := length_of_selectItem item
      obtain ⟨later, spelledLater, frontLater⟩ := ih _ (by omega) more rfl
      exact ⟨kinds ++ .comma :: later, .cons spelled spelledLater,
        front.trans (behind.trans frontLater)⟩

theorem exists_selectItems {kinds : List TokenKind} {outlines : List SelectItem}
    (spelled : Separated SpellsItem kinds outlines) (front : Front kinds tokens rest)
    (stop : nextKind? rest = some (.keyword .FROM)) :
    ∃ items, selectItems source tokens = .ok (items, rest) ∧ items.map .outline = outlines := by
  induction spelled generalizing tokens with
  | last one =>
    obtain ⟨item, read, same⟩ := exists_selectItem one front (.inr stop)
    have last : skip? .comma rest = none := skip?_eq_none_iff.2 (by simp [stop])
    exact ⟨[item], selectItems_step.2 ⟨item, rest, read, .inl ⟨last, rfl, rfl⟩⟩, by simp [same]⟩
  | cons one _ ih =>
    obtain ⟨after, front, behind⟩ := front_append.1 front
    obtain ⟨next, comma, later⟩ := behind.cut [.comma]
    obtain ⟨item, read, same⟩ := exists_selectItem one front (.inl (nextKind?_of_front comma))
    obtain ⟨items, more, others⟩ := ih later
    exact ⟨item :: items, selectItems_step.2
      ⟨item, after, read, .inr ⟨next, items, skip?_eq_some_iff.2 comma, more, rfl⟩⟩,
      by simp [same, others]⟩

end Parser

end SqlGrader
