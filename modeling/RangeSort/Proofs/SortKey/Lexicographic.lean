import RangeSort.Proofs.SortKey.Order

/-! The order of keys is lexicographic. The first position at which two keys differ decides, in
its direction, and nothing after it matters. -/

namespace RangeSort

def Direction.flip : Direction → Direction
  | .ascending => .descending
  | .descending => .ascending

theorem Direction.compare_flip (d : Direction) (a b : Value) :
    d.flip.compare a b = d.compare b a := by
  cases d <;> rfl

variable {ds : List Direction} {a b : Row}

theorem compareKeys_of_first {d : Direction} {i : Nat} (hd : ds[i]? = some d)
    (hbefore : ∀ j < i, a.item j = b.item j) (hne : a.item i ≠ b.item i) :
    compareKeys ds a b = d.compare (a.item i) (b.item i) := by
  induction ds generalizing a b i with
  | nil => cases hd
  | cons e ds ih =>
    rw [compareKeys, ← a.item_zero, ← b.item_zero]
    cases i with
    | zero =>
      cases hd
      have hdiffer : d.compare (a.item 0) (b.item 0) ≠ .eq :=
        fun he => hne (Direction.compare_eq_eq.mp he)
      cases hcmp : d.compare (a.item 0) (b.item 0) with
      | eq => exact absurd hcmp hdiffer
      | lt => rfl
      | gt => rfl
    | succ i =>
      have hhead : e.compare (a.item 0) (b.item 0) = .eq :=
        Direction.compare_eq_eq.mpr (hbefore 0 (Nat.succ_pos i))
      rw [a.item_succ, b.item_succ] at hne ⊢
      rw [hhead, Ordering.eq_then]
      refine ih hd (fun j hj => ?_) hne
      rw [← a.item_succ, ← b.item_succ]
      exact hbefore (j + 1) (Nat.succ_lt_succ hj)

theorem compareKeys_flip : compareKeys (ds.map Direction.flip) a b = compareKeys ds b a := by
  induction ds generalizing a b with
  | nil => rfl
  | cons d ds ih => rw [List.map_cons, compareKeys, compareKeys, Direction.compare_flip, ih]

theorem compareKeys_ascending (hds : ∀ d ∈ ds, d = .ascending) (ha : a.length = ds.length)
    (hb : b.length = ds.length) : compareKeys ds a b = compareItems a b := by
  induction ds generalizing a b with
  | nil =>
    rw [List.length_eq_zero_iff.mp ha, List.length_eq_zero_iff.mp hb]
    rfl
  | cons d ds ih =>
    obtain ⟨v, a, rfl⟩ := List.exists_cons_of_length_eq_add_one ha
    obtain ⟨w, b, rfl⟩ := List.exists_cons_of_length_eq_add_one hb
    obtain ⟨rfl, hrest⟩ := List.forall_mem_cons.mp hds
    have htail := ih hrest (Nat.succ.inj ha) (Nat.succ.inj hb)
    rw [compareKeys, compareItems, List.tail_cons, List.tail_cons, htail]
    rfl

/-- Whatever the directions and however wide the keys, keys are ordered up to ties, which agree
at every position that has a direction. Otherwise the first position at which they differ
decides. Turning all directions around exchanges the keys, and where all ascend and the keys
have their width, the order is that of rows. -/
theorem compareKeys_lexicographic (ds : List Direction) :
    TotalPreorder (compareKeys ds) ∧
      (∀ a b, compareKeys ds a b = .eq ↔ ∀ i < ds.length, a.item i = b.item i) ∧
      (∀ a b i d, ds[i]? = some d → (∀ j < i, a.item j = b.item j) → a.item i ≠ b.item i →
        compareKeys ds a b = d.compare (a.item i) (b.item i)) ∧
      (∀ a b, compareKeys (ds.map Direction.flip) a b = compareKeys ds b a) ∧
      ∀ a b, (∀ d ∈ ds, d = .ascending) → a.length = ds.length → b.length = ds.length →
        compareKeys ds a b = compareItems a b :=
  ⟨.of_transCmp, fun _ _ => compareKeys_eq_eq, fun _ _ _ _ => compareKeys_of_first,
    fun _ _ => compareKeys_flip, fun _ _ => compareKeys_ascending⟩

/-- A short key, a key with values of another kind and one with a value that does not count. -/
theorem compareKeys_lexicographic_ragged :
    let ds : List Direction := [.descending, .ascending]
    let a : Row := [.text "b", .int 7, .int 0]
    let b : Row := [.int 7, .null]
    let c : Row := [.int 7, .double 0x8000000000000000]
    compareKeys ds a b ≠ .gt ∧ compareKeys ds b c ≠ .gt ∧ compareKeys ds a c ≠ .gt ∧
      compareKeys ds b c = Value.null.compare (.double 0x8000000000000000) ∧
      compareKeys ds b [.int 7] = .eq ∧
      compareKeys [.ascending, .ascending] b c = compareItems b c := by
  intro ds a b c
  obtain ⟨hpre, heq, hfirst, -, -⟩ := compareKeys_lexicographic ds
  obtain ⟨-, -, -, -, hrows⟩ := compareKeys_lexicographic [.ascending, .ascending]
  have hab : compareKeys ds a b ≠ .gt := by decide
  have hbc : compareKeys ds b c ≠ .gt := by decide
  have hbefore : ∀ j < 1, b.item j = c.item j := by
    intro j hj
    rw [Nat.lt_one_iff.mp hj]
    rfl
  have htie : ∀ i < ds.length, b.item i = Row.item [.int 7] i
    | 0, _ => rfl
    | 1, _ => rfl
    | i + 2, hi => absurd hi (by simp [ds])
  exact ⟨hab, hbc, hpre.trans a b c hab hbc, hfirst b c 1 .ascending rfl hbefore nofun,
    (heq b [.int 7]).mpr htie, hrows b c (by decide) rfl rfl⟩

end RangeSort
