import RangeSort.Partition.Router
import RangeSort.Proofs.SortKey.Order

/-! Routing by bisection. The search finds the number of boundaries that a key reaches, so
greater keys never go to lower partitions. -/

namespace RangeSort

/-- The place found by halving separates the indices where `p` holds from those where it
does not. -/
theorem firstFailure_spec {p : Nat → Bool} {low high : Nat} (hle : low ≤ high)
    (hp : ∀ i j, i ≤ j → j < high → p j = true → p i = true) :
    low ≤ firstFailure p low high ∧ firstFailure p low high ≤ high ∧
      ∀ i, low ≤ i → i < high → (p i = true ↔ i < firstFailure p low high) := by
  fun_induction firstFailure p low high with
  | case1 low high hlt middle hm ih =>
    obtain ⟨h1, h2, h3⟩ := ih (by omega) hp
    refine ⟨by omega, h2, fun i hi hih => ?_⟩
    by_cases him : i ≤ middle
    · exact ⟨fun _ => by omega, fun _ => hp i middle him (by omega) hm⟩
    · exact h3 i (by omega) hih
  | case2 low high hlt middle hm ih =>
    obtain ⟨h1, h2, h3⟩ := ih (by omega) fun i j hij hj => hp i j hij (by omega)
    refine ⟨h1, by omega, fun i hi hih => ?_⟩
    by_cases him : i < middle
    · exact h3 i hi him
    · exact ⟨fun h => absurd (hp middle i (by omega) hih h) hm, fun _ => by omega⟩
  | case3 low high hlt =>
    exact ⟨Nat.le_refl _, hle, fun i hi hih => absurd (Nat.lt_of_le_of_lt hi hih) hlt⟩

theorem firstFailure_eq_countP {p : Nat → Bool} {n : Nat}
    (hp : ∀ i j, i ≤ j → j < n → p j = true → p i = true) :
    firstFailure p 0 n = (List.range n).countP p := by
  obtain ⟨-, hle, hiff⟩ := firstFailure_spec (Nat.zero_le n) hp
  obtain ⟨k, hk⟩ := Nat.exists_eq_add_of_le hle
  have hlow : (List.range (firstFailure p 0 n)).countP p = firstFailure p 0 n := by
    rw [List.countP_eq_length.mpr, List.length_range]
    intro i hi
    have := List.mem_range.mp hi
    exact (hiff i (Nat.zero_le i) (by omega)).mpr this
  have hhigh : ((List.range k).map (firstFailure p 0 n + ·)).countP p = 0 := by
    rw [List.countP_eq_zero]
    intro i hi
    obtain ⟨j, hj, rfl⟩ := List.mem_map.mp hi
    have := List.mem_range.mp hj
    rw [hiff _ (Nat.zero_le _) (by omega)]
    omega
  calc firstFailure p 0 n
      = (List.range (firstFailure p 0 n + k)).countP p := by
        rw [List.range_add, List.countP_append, hlow, hhigh, Nat.add_zero]
    _ = (List.range n).countP p := by rw [← hk]

theorem countP_range_getElem? {α : Type} (q : α → Bool) (l : List α) :
    (List.range l.length).countP (fun i => l[i]?.any q) = l.countP q := by
  induction l with
  | nil => rfl
  | cons a l ih =>
    rw [List.length_cons, List.range_succ_eq_map, List.countP_cons, List.countP_map,
      List.countP_cons, ← ih]
    rfl

theorem pairwise_of_firstDescent {α : Type} {cmp : α → α → Ordering} [Std.TransCmp cmp]
    {l : List α} (h : firstDescent cmp l = none) : l.Pairwise fun a b => (cmp a b).isLE := by
  fun_induction firstDescent cmp l with
  | case1 => cases h
  | case2 a b rest hgt ih =>
    have hab : (cmp a b).isLE := Ordering.isLE_iff_ne_gt.mpr hgt
    have hb := ih h
    refine List.pairwise_cons.mpr ⟨fun c hc => ?_, hb⟩
    rcases List.mem_cons.mp hc with rfl | hc
    · exact hab
    · exact Std.TransCmp.isLE_trans hab ((List.pairwise_cons.mp hb).1 c hc)
  | case3 l hl =>
    match l, hl with
    | [], _ => exact .nil
    | [a], _ => exact List.pairwise_singleton _ _
    | a :: b :: rest, hl => exact absurd rfl (hl a b rest)

theorem firstDescent_eq_none {α : Type} {cmp : α → α → Ordering} {l : List α}
    (h : l.Pairwise fun a b => (cmp a b).isLE) : firstDescent cmp l = none := by
  fun_induction firstDescent cmp l with
  | case1 a b rest hgt =>
    have hab := (List.pairwise_cons.mp h).1 b List.mem_cons_self
    exact absurd hgt (Ordering.isLE_iff_ne_gt.mp hab)
  | case2 a b rest hgt ih => exact ih (List.pairwise_cons.mp h).2
  | case3 l hl => rfl

namespace Router

theorem ofBoundaries_of_pairwise {key : SortKey} {bounds : List Row}
    (h : bounds.Pairwise fun a b => (key.compare a b).isLE) :
    ofBoundaries key bounds = .ok ⟨key, bounds.toArray⟩ := by
  rw [ofBoundaries, firstDescent_eq_none h]

theorem ofBoundaries_eq_ok {key : SortKey} {bounds : List Row} {r : Router}
    (h : ofBoundaries key bounds = .ok r) :
    r = ⟨key, bounds.toArray⟩ ∧ bounds.Pairwise fun a b => (key.compare a b).isLE := by
  unfold ofBoundaries at h
  split at h
  · cases h
  · cases h
    exact ⟨rfl, pairwise_of_firstDescent ‹_›⟩

def Sorted (r : Router) : Prop :=
  r.boundaries.toList.Pairwise fun a b => (r.key.compare a b).isLE

theorem sorted_ofBoundaries {key : SortKey} {bounds : List Row} {r : Router}
    (h : ofBoundaries key bounds = .ok r) : r.Sorted := by
  obtain ⟨rfl, hs⟩ := ofBoundaries_eq_ok h
  exact hs

variable {r : Router}

theorem reaches_iff {k : Row} {i : Nat} (hi : i < r.boundaries.size) :
    r.reaches k i = true ↔ r.key.le r.boundaries[i] k = true := by
  simp [reaches, Array.getElem?_eq_getElem hi]

theorem Sorted.reaches_of_le (h : r.Sorted) {k : Row} {i j : Nat} (hij : i ≤ j)
    (hj : j < r.boundaries.size) (hr : r.reaches k j = true) : r.reaches k i = true := by
  rw [reaches_iff hj] at hr
  rw [reaches_iff (by omega)]
  rcases Nat.lt_or_eq_of_le hij with hlt | rfl
  · have hb := List.pairwise_iff_getElem.mp h i j (by simp; omega) (by simpa) hlt
    exact r.key.le_trans _ _ _ (r.key.le_iff.mpr (by simpa using hb)) hr
  · exact hr

theorem route_lt (k : Row) (parts : Nat) : r.route k parts < max parts 1 := by
  unfold route
  omega

/-- The number of boundaries that a key reaches. -/
def rank (r : Router) (k : Row) : Nat :=
  r.boundaries.toList.countP fun b => r.key.le b k

theorem Sorted.firstFailure_eq_rank (h : r.Sorted) (k : Row) :
    firstFailure (r.reaches k) 0 r.boundaries.size = r.rank k := by
  have hc := firstFailure_eq_countP (p := r.reaches k) fun i j => h.reaches_of_le
  have hb := countP_range_getElem? (fun b => r.key.le b k) r.boundaries.toList
  simp only [Array.length_toList, Array.getElem?_toList] at hb
  rw [hc, rank, ← hb]
  rfl

/-- The boundaries that a key reaches are the first ones of the table. -/
theorem Sorted.le_iff_lt_rank (h : r.Sorted) {i : Nat} (hi : i < r.boundaries.size) (k : Row) :
    r.key.le r.boundaries[i] k = true ↔ i < r.rank k := by
  obtain ⟨-, -, hspec⟩ := firstFailure_spec (Nat.zero_le r.boundaries.size)
    fun _ _ => h.reaches_of_le (k := k)
  rw [← reaches_iff hi, ← h.firstFailure_eq_rank]
  exact hspec i (Nat.zero_le i) hi

/-- The partition of a key is its rank, but not past the last partition. -/
theorem Sorted.route_eq (h : r.Sorted) (k : Row) (parts : Nat) :
    r.route k parts = min (r.rank k) (parts - 1) := by
  rw [route, h.firstFailure_eq_rank]

theorem Sorted.route_le_route (h : r.Sorted) {a b : Row} (hab : r.key.le a b = true)
    (parts : Nat) : r.route a parts ≤ r.route b parts := by
  have hc : r.rank a ≤ r.rank b :=
    List.countP_mono_left fun c _ hca => r.key.le_trans c a b hca hab
  rw [h.route_eq, h.route_eq]
  omega

end Router

end RangeSort
