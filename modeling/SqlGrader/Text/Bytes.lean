/-!
# Byte offsets

Places in a text are counted in bytes of its UTF-8 form. Main statement: a text can be cut at
the offset after any of its beginnings (`dropBytes?_append`).
-/

set_option autoImplicit false

namespace SqlGrader.Text

def byteLength : List Char → Nat
  | [] => 0
  | c :: rest => c.utf8Size + byteLength rest

/-- What is left after the first bytes; `none` if the cut is inside a character or beyond the
end. -/
def dropBytes? : Nat → List Char → Option (List Char)
  | 0, cs => some cs
  | _ + 1, [] => none
  | n + 1, c :: rest => if c.utf8Size ≤ n + 1 then dropBytes? (n + 1 - c.utf8Size) rest else none

/-- The first bytes as text; `none` if the cut is inside a character or beyond the end. -/
def takeBytes? : Nat → List Char → Option (List Char)
  | 0, _ => some []
  | _ + 1, [] => none
  | n + 1, c :: rest =>
    if c.utf8Size ≤ n + 1 then (takeBytes? (n + 1 - c.utf8Size) rest).map (c :: ·) else none

/-- The text between two byte offsets. -/
def slice? (cs : List Char) (start stop : Nat) : Option (List Char) :=
  if start ≤ stop then (dropBytes? start cs).bind (takeBytes? (stop - start)) else none

theorem byteLength_append (cs ds : List Char) :
    byteLength (cs ++ ds) = byteLength cs + byteLength ds := by
  induction cs with
  | nil => simp [byteLength]
  | cons c rest ih => simp [byteLength, ih, Nat.add_assoc]

theorem dropBytes?_append (cs ds : List Char) :
    dropBytes? (byteLength cs) (cs ++ ds) = some ds := by
  induction cs with
  | nil => simp [byteLength, dropBytes?]
  | cons c rest ih =>
    have hpos := Char.utf8Size_pos c
    obtain ⟨n, hn⟩ : ∃ n, byteLength (c :: rest) = n + 1 :=
      ⟨byteLength (c :: rest) - 1, by simp only [byteLength]; omega⟩
    have hle : c.utf8Size ≤ n + 1 := by rw [← hn, byteLength]; omega
    have hsub : n + 1 - c.utf8Size = byteLength rest := by rw [← hn, byteLength]; omega
    rw [hn, List.cons_append, dropBytes?, if_pos hle, hsub, ih]

theorem takeBytes?_append (cs ds : List Char) :
    takeBytes? (byteLength cs) (cs ++ ds) = some cs := by
  induction cs with
  | nil => simp [byteLength, takeBytes?]
  | cons c rest ih =>
    have hpos := Char.utf8Size_pos c
    obtain ⟨n, hn⟩ : ∃ n, byteLength (c :: rest) = n + 1 :=
      ⟨byteLength (c :: rest) - 1, by simp only [byteLength]; omega⟩
    have hle : c.utf8Size ≤ n + 1 := by rw [← hn, byteLength]; omega
    have hsub : n + 1 - c.utf8Size = byteLength rest := by rw [← hn, byteLength]; omega
    rw [hn, List.cons_append, takeBytes?, if_pos hle, hsub, ih, Option.map_some]

/-- A slice between the ends of two beginnings of a text is what the longer one adds. -/
theorem slice?_append (before inside after : List Char) :
    slice? (before ++ (inside ++ after)) (byteLength before)
      (byteLength before + byteLength inside) = some inside := by
  rw [slice?, if_pos (Nat.le_add_right _ _), dropBytes?_append, Nat.add_sub_cancel_left,
    Option.bind_some, takeBytes?_append]

end SqlGrader.Text
