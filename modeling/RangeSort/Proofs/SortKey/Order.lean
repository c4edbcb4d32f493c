import RangeSort.Proofs.Value.Order
import RangeSort.SortKey.Order

/-! The order of keys is a total preorder, whatever the directions. -/

namespace RangeSort

instance Direction.compare_transCmp (d : Direction) : Std.TransCmp d.compare := by
  have h : Std.TransCmp Value.compare := inferInstance
  cases d with
  | ascending => exact h
  | descending => exact { eq_swap := h.eq_swap, isLE_trans := fun hab hbc => h.isLE_trans hbc hab }

instance compareKeys_transCmp (ds : List Direction) : Std.TransCmp (compareKeys ds) where
  eq_swap {a b} := by
    induction ds generalizing a b with
    | nil => rfl
    | cons d ds ih =>
      rw [compareKeys, compareKeys, Ordering.swap_then, ← ih, ← Std.OrientedCmp.eq_swap]
  isLE_trans {a b c} hab hbc := by
    induction ds generalizing a b c with
    | nil => rfl
    | cons d ds ih =>
      rw [compareKeys, Ordering.isLE_then_iff_and] at *
      refine ⟨Std.TransCmp.isLE_trans hab.1 hbc.1, ?_⟩
      rcases hab with ⟨hab, hlt | hab'⟩
      · exact .inl (Std.TransCmp.lt_of_lt_of_isLE hlt hbc.1)
      · rcases hbc with ⟨hbc, hlt | hbc'⟩
        · exact .inl (Std.TransCmp.lt_of_isLE_of_lt hab hlt)
        · exact .inr (ih hab' hbc')

theorem Direction.compare_eq_eq {d : Direction} {a b : Value} : d.compare a b = .eq ↔ a = b := by
  have heq {v w : Value} : v.compare w = .eq ↔ v = w := Std.LawfulEqCmp.compare_eq_iff_eq
  cases d with
  | ascending => exact heq
  | descending => exact heq.trans eq_comm

/-- Keys tie when they are the same at all positions that count. -/
theorem compareKeys_eq_eq {ds : List Direction} {a b : Row} :
    compareKeys ds a b = .eq ↔ ∀ i < ds.length, a.item i = b.item i := by
  induction ds generalizing a b with
  | nil => exact iff_of_true rfl nofun
  | cons d ds ih =>
    rw [compareKeys, Ordering.then_eq_eq, Direction.compare_eq_eq, ih, List.length_cons,
      ← a.item_zero, ← b.item_zero]
    constructor
    · rintro ⟨hhead, htail⟩ i hi
      cases i with
      | zero => exact hhead
      | succ i =>
        rw [a.item_succ, b.item_succ]
        exact htail i (Nat.lt_of_succ_lt_succ hi)
    · intro h
      refine ⟨h 0 (Nat.succ_pos _), fun i hi => ?_⟩
      rw [← a.item_succ, ← b.item_succ]
      exact h (i + 1) (Nat.succ_lt_succ hi)

theorem eq_of_compareKeys {ds : List Direction} {a b : Row} (ha : a.length = ds.length)
    (hb : b.length = ds.length) (h : compareKeys ds a b = .eq) : a = b := by
  refine List.ext_getElem (ha.trans hb.symm) fun i hi hi' => ?_
  have hitem := compareKeys_eq_eq.mp h i (ha ▸ hi)
  simpa [Row.item, List.getElem?_eq_getElem hi, List.getElem?_eq_getElem hi'] using hitem

namespace SortKey

variable (key : SortKey)

instance : Std.TransCmp key.compare :=
  compareKeys_transCmp key.directions

theorem le_iff {a b : Row} : key.le a b = true ↔ (key.compare a b).isLE := by
  rw [le, bne_iff_ne, Ordering.isLE_iff_ne_gt]

theorem compare_eq_lt {a b : Row} : key.compare a b = .lt ↔ key.le b a = false := by
  have hs : key.compare b a = (key.compare a b).swap := Std.OrientedCmp.eq_swap
  rw [← Bool.not_eq_true, le_iff, hs]
  cases key.compare a b <;> decide

theorem le_refl (a : Row) : key.le a a = true :=
  key.le_iff.mpr (by simp [Std.ReflCmp.compare_self])

theorem le_trans (a b c : Row) (hab : key.le a b = true) (hbc : key.le b c = true) :
    key.le a c = true := by
  rw [le_iff] at *
  exact Std.TransCmp.isLE_trans hab hbc

theorem le_total (a b : Row) : (key.le a b || key.le b a) = true := by
  have hs : key.compare b a = (key.compare a b).swap := Std.OrientedCmp.eq_swap
  rw [Bool.or_eq_true, le_iff, le_iff, hs]
  cases key.compare a b <;> simp

end SortKey

end RangeSort
