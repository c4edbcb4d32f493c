/-! The longest run at the head of a list. -/

namespace RangeSort

variable {α : Type} {p : α → Bool} {l rest : List α}

theorem takeWhile_run (hl : ∀ a ∈ l, p a = true) (hrest : ∀ a ∈ rest.head?, p a = false) :
    (l ++ rest).takeWhile p = l := by
  have hstop : rest.takeWhile p = [] := by
    cases rest with
    | nil => rfl
    | cons a rest => simp [hrest a rfl]
  rw [List.takeWhile_append_of_pos hl, hstop, List.append_nil]

theorem dropWhile_run (hl : ∀ a ∈ l, p a = true) (hrest : ∀ a ∈ rest.head?, p a = false) :
    (l ++ rest).dropWhile p = rest := by
  rw [List.dropWhile_append_of_pos hl]
  cases rest with
  | nil => rfl
  | cons a rest => simp [hrest a rfl]

end RangeSort
