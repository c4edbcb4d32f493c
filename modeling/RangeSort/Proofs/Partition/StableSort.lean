import Mathlib.Data.List.Basic

/-! A stable sort class by class. When the classes of elements follow their order, sorting
every class and joining the results in class order sorts the whole list. -/

namespace RangeSort

variable {α : Type} {le : α → α → Bool}

/-- Puts `a` in front of the first element that it is at most. -/
def insertBefore (le : α → α → Bool) (a : α) (l : List α) : List α :=
  l.takeWhile (fun b => !le a b) ++ a :: l.dropWhile fun b => !le a b

theorem insertBefore_of_le {a : α} {l : List α} (h : ∀ b ∈ l, le a b = true) :
    insertBefore le a l = a :: l := by
  cases l with
  | nil => rfl
  | cons b l => simp [insertBefore, h b List.mem_cons_self]

theorem insertBefore_append_low {a : α} {low : List α} (h : ∀ b ∈ low, le a b = false)
    (l : List α) : insertBefore le a (low ++ l) = low ++ insertBefore le a l := by
  have hlow : ∀ b ∈ low, (!le a b) = true := fun b hb => by simp [h b hb]
  rw [insertBefore, List.takeWhile_append_of_pos hlow, List.dropWhile_append_of_pos hlow,
    List.append_assoc, insertBefore]

theorem insertBefore_append_high {a : α} {high : List α} (h : ∀ b ∈ high, le a b = true)
    (l : List α) : insertBefore le a (l ++ high) = insertBefore le a l ++ high := by
  induction l with
  | nil => rw [List.nil_append, insertBefore_of_le h]; rfl
  | cons b l ih =>
    cases hb : le a b with
    | true => simp [insertBefore, hb]
    | false =>
      have hlow : ∀ c ∈ [b], le a c = false := by simpa using hb
      have hh := insertBefore_append_low hlow
      simp only [List.singleton_append] at hh
      rw [List.cons_append, hh, hh, ih, List.cons_append]

theorem mergeSort_cons_eq (htrans : ∀ a b c, le a b = true → le b c = true → le a c = true)
    (htotal : ∀ a b, (le a b || le b a) = true) (a : α) (l : List α) :
    (a :: l).mergeSort le = insertBefore le a (l.mergeSort le) := by
  obtain ⟨l₁, l₂, hal, hl, hlow⟩ := List.mergeSort_cons htrans htotal a l
  have hs := List.pairwise_mergeSort htrans htotal (a :: l)
  rw [hal, List.pairwise_append, List.pairwise_cons] at hs
  rw [hal, hl, insertBefore_append_low (fun b hb => by simpa using hlow b hb),
    insertBefore_of_le hs.2.1.1]

theorem range_split {p n : Nat} (h : p < n) :
    List.range n = List.range p ++ p :: (List.range (n - p - 1)).map (p + 1 + ·) := by
  obtain ⟨k, rfl⟩ := Nat.exists_eq_add_of_lt h
  rw [show p + k + 1 = (p + 1) + k by omega, List.range_add, List.range_succ,
    show p + 1 + k - p - 1 = k by omega, List.append_assoc, List.singleton_append]

/-- The elements of class `p`, sorted. -/
def sortedClass (le : α → α → Bool) (cls : α → Nat) (l : List α) (p : Nat) : List α :=
  (l.filter fun a => cls a == p).mergeSort le

theorem class_of_mem_sortedClass {cls : α → Nat} {l : List α} {p : Nat} {a : α}
    (h : a ∈ sortedClass le cls l p) : cls a = p := by
  simpa using (List.mem_filter.mp (List.mem_mergeSort.mp h)).2

theorem sortedClass_cons_of_ne {cls : α → Nat} {a : α} {p : Nat} (h : cls a ≠ p) (l : List α) :
    sortedClass le cls (a :: l) p = sortedClass le cls l p := by
  rw [sortedClass, List.filter_cons_of_neg (by simpa using h), sortedClass]

/-- Sorting keeps classes apart when no element is at most one of a lower class. -/
theorem mergeSort_eq_flatMap_sortedClass
    (htrans : ∀ a b c, le a b = true → le b c = true → le a c = true)
    (htotal : ∀ a b, (le a b || le b a) = true) {cls : α → Nat} {n : Nat}
    (hcls : ∀ a b, le a b = true → cls a ≤ cls b) (l : List α) (hn : ∀ a ∈ l, cls a < n) :
    l.mergeSort le = (List.range n).flatMap (sortedClass le cls l) := by
  induction l with
  | nil => simp [sortedClass]
  | cons a l ih =>
    -- only the class of the new element changes, and its place there is its place in the whole
    let low := (List.range (cls a)).flatMap (sortedClass le cls l)
    let high := ((List.range (n - cls a - 1)).map (cls a + 1 + ·)).flatMap (sortedClass le cls l)
    have hn' := range_split (hn a List.mem_cons_self)
    have hl : l.mergeSort le = low ++ (sortedClass le cls l (cls a) ++ high) := by
      rw [ih fun b hb => hn b (List.mem_cons_of_mem a hb), hn', List.flatMap_append,
        List.flatMap_cons]
    have hown : sortedClass le cls (a :: l) (cls a) =
        insertBefore le a (sortedClass le cls l (cls a)) := by
      rw [sortedClass, List.filter_cons_of_pos (by simp), mergeSort_cons_eq htrans htotal,
        sortedClass]
    have hlow : ∀ b ∈ low, le a b = false := by
      intro b hb
      obtain ⟨p, hp, hb⟩ := List.mem_flatMap.mp hb
      have hp := List.mem_range.mp hp
      have hc := class_of_mem_sortedClass hb
      rw [← Bool.not_eq_true]
      intro hab
      have := hcls a b hab
      omega
    have hhigh : ∀ b ∈ high, le a b = true := by
      intro b hb
      obtain ⟨p, hp, hb⟩ := List.mem_flatMap.mp hb
      obtain ⟨k, -, rfl⟩ := List.mem_map.mp hp
      have hc := class_of_mem_sortedClass hb
      rcases Bool.or_eq_true_iff.mp (htotal a b) with h | h
      · exact h
      · have := hcls b a h
        omega
    have hlow' : (List.range (cls a)).flatMap (sortedClass le cls (a :: l)) = low := by
      refine List.flatMap_congr fun p hp => sortedClass_cons_of_ne ?_ l
      have := List.mem_range.mp hp
      omega
    have hhigh' : ((List.range (n - cls a - 1)).map (cls a + 1 + ·)).flatMap
        (sortedClass le cls (a :: l)) = high := by
      refine List.flatMap_congr fun p hp => sortedClass_cons_of_ne ?_ l
      obtain ⟨k, -, rfl⟩ := List.mem_map.mp hp
      omega
    rw [mergeSort_cons_eq htrans htotal, hl, insertBefore_append_low hlow,
      insertBefore_append_high hhigh, hn', List.flatMap_append, List.flatMap_cons, hlow', hown,
      hhigh']

end RangeSort
