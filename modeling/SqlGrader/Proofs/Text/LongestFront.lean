/-!
# The longest front of a class

Cutting a list where a property first fails, described by the two parts: the front has the
property throughout and the rest does not begin with it (`longest_front`), and these two facts
fix the cut (`takeWhile_front`).
-/

set_option autoImplicit false

namespace SqlGrader.Text

variable {α : Type} {p : α → Bool}

theorem longest_front (xs : List α) :
    (∀ x ∈ xs.takeWhile p, p x = true) ∧
      ∀ x, (xs.dropWhile p).head? = some x → p x = false := by
  refine ⟨fun x member => List.all_eq_true.1 List.all_takeWhile x member, fun x head => ?_⟩
  have stopped := List.head?_dropWhile_not p xs
  rw [head] at stopped
  exact stopped

theorem takeWhile_front {front : List α} (rest : List α) (inside : ∀ x ∈ front, p x = true)
    (stop : ∀ x, rest.head? = some x → p x = false) :
    (front ++ rest).takeWhile p = front ∧ (front ++ rest).dropWhile p = rest := by
  rw [List.takeWhile_append_of_pos inside, List.dropWhile_append_of_pos inside]
  cases rest with
  | nil => simp
  | cons x rest => simp [stop x rfl]

end SqlGrader.Text
