import RangeSort.Proofs.Partition.GlobalSort

/-! The partition of a key is its rank in the table, the number of boundaries that are at most
it, cut to the partitions that are asked for. Tables out of order are refused. -/

namespace RangeSort

/-- What is found first are neighbours of which the second should stand before the first. -/
theorem firstDescent_eq_some {α : Type} {cmp : α → α → Ordering} {l : List α} {a b : α}
    (h : firstDescent cmp l = some (a, b)) : cmp a b = .gt ∧ [a, b] <:+: l := by
  fun_induction firstDescent cmp l with
  | case1 c d rest hgt =>
    cases h
    exact ⟨hgt, List.infix_append [] [a, b] rest⟩
  | case2 c d rest hgt ih =>
    obtain ⟨hab, hinfix⟩ := ih h
    exact ⟨hab, hinfix.trans (List.suffix_cons c (d :: rest)).isInfix⟩
  | case3 l hl => cases h

namespace Router

theorem ofBoundaries_eq_error {key : SortKey} {bounds : List Row} {e : Error}
    (h : ofBoundaries key bounds = .error e) :
    ∃ a b, e = .unsorted a b ∧ key.compare a b = .gt ∧ [a, b] <:+: bounds := by
  unfold ofBoundaries at h
  split at h
  · rename_i a b hfirst
    cases h
    exact ⟨a, b, rfl, firstDescent_eq_some hfirst⟩
  · cases h

variable {r : Router}

theorem Sorted.between_of_rank (h : r.Sorted) {k : Row} (hpos : 0 < r.rank k)
    (hlt : r.rank k < r.boundaries.size) :
    r.key.le r.boundaries[r.rank k - 1] k = true ∧
      r.key.compare k r.boundaries[r.rank k] = .lt := by
  have hlow := h.le_iff_lt_rank (Nat.lt_of_le_of_lt (Nat.sub_le (r.rank k) 1) hlt) k
  have hhigh := h.le_iff_lt_rank hlt k
  refine ⟨hlow.mpr (by omega), ?_⟩
  rw [SortKey.compare_eq_lt, ← Bool.not_eq_true, hhigh]
  exact Nat.lt_irrefl _

/-- Fewer partitions merge the last ones. -/
theorem Sorted.route_of_le (h : r.Sorted) (k : Row) {m parts : Nat} (hm : 1 ≤ m)
    (hle : m ≤ parts) : r.route k m = min (r.route k parts) (m - 1) := by
  rw [h.route_eq, h.route_eq]
  omega

/-- A table is accepted exactly when it ascends, and otherwise the error names neighbours that
do not. In an accepted table a key lies between the boundaries around its partition, so keys
that are the same or greater keep their partition or go to a higher one. -/
theorem ofBoundaries_route (key : SortKey) (bounds : List Row) :
    ((∃ r, ofBoundaries key bounds = .ok r) ↔
        ∀ (i j : Nat) (hij : i < j) (hj : j < bounds.length),
          (key.compare bounds[i] bounds[j]).isLE) ∧
      (∀ e, ofBoundaries key bounds = .error e →
        ∃ a b, e = .unsorted a b ∧ key.compare a b = .gt ∧ [a, b] <:+: bounds) ∧
      ∀ r, ofBoundaries key bounds = .ok r → ∀ (k : Row) (parts : Nat),
        let c := bounds.countP fun b => key.le b k
        r.route k parts = min c (max parts 1 - 1) ∧
        r.route k parts < max parts 1 ∧
        (0 < c → c < bounds.length → ∃ low high, bounds[c - 1]? = some low ∧
          bounds[c]? = some high ∧ (key.compare low k).isLE ∧ key.compare k high = .lt) ∧
        (∀ other, key.compare k other = .eq → r.route k parts = r.route other parts) ∧
        (∀ other, (key.compare k other).isLE → r.route k parts ≤ r.route other parts) ∧
        ∀ m, 1 ≤ m → m ≤ parts → r.route k m = min (r.route k parts) (m - 1) := by
  refine ⟨⟨fun ⟨r, hr⟩ i j hij hj => ?_, fun hsorted => ?_⟩, fun e => ofBoundaries_eq_error,
    fun r hr k parts => ?_⟩
  · exact List.pairwise_iff_getElem.mp (ofBoundaries_eq_ok hr).2 i j (Nat.lt_trans hij hj) hj hij
  · exact ⟨_, ofBoundaries_of_pairwise (List.pairwise_iff_getElem.mpr
      fun i j _ hj hij => hsorted i j hij hj)⟩
  · have hs := sorted_ofBoundaries hr
    have hmono : ∀ a b : Row, (key.compare a b).isLE → r.route a parts ≤ r.route b parts := by
      intro a b hab
      obtain ⟨rfl, -⟩ := ofBoundaries_eq_ok hr
      exact hs.route_le_route (key.le_iff.mpr hab) parts
    refine ⟨?_, route_lt k parts, fun hpos hlt => ?_, fun other heq => ?_, hmono k,
      fun m hm hle => hs.route_of_le k hm hle⟩
    · obtain ⟨rfl, -⟩ := ofBoundaries_eq_ok hr
      have hlast : max parts 1 - 1 = parts - 1 := by omega
      rw [hs.route_eq, hlast]
      rfl
    · obtain ⟨rfl, -⟩ := ofBoundaries_eq_ok hr
      obtain ⟨hlow, hhigh⟩ := hs.between_of_rank hpos hlt
      exact ⟨_, _, List.getElem?_eq_getElem _, List.getElem?_eq_getElem hlt,
        key.le_iff.mp hlow, hhigh⟩
    · have hback : key.compare other k = .eq := Std.OrientedCmp.eq_symm heq
      exact Nat.le_antisymm (hmono k other (by simp [heq])) (hmono other k (by simp [hback]))

/-- A key among repeated boundaries, wider than the sort key. -/
theorem ofBoundaries_route_repeated :
    let k : Row := [.int 7, .text "x"]
    ∃ r, ofBoundaries largestFirst [[.int 9], [.int 7], [.int 7], [.int 2]] = .ok r ∧
      r.route k 9 = 3 ∧ r.route k 2 = 1 ∧ largestFirst.compare k [.int 2] = .lt ∧
      r.route k 9 = r.route [.int 7] 9 ∧ r.route k 9 ≤ r.route [] 9 := by
  intro k
  have h : ofBoundaries largestFirst [[.int 9], [.int 7], [.int 7], [.int 2]] =
      .ok ⟨largestFirst, #[[.int 9], [.int 7], [.int 7], [.int 2]]⟩ := rfl
  obtain ⟨-, -, hroute⟩ := ofBoundaries_route largestFirst
    [[.int 9], [.int 7], [.int 7], [.int 2]]
  obtain ⟨hrank, -, hbetween, hsame, hmono, hfewer⟩ := hroute _ h k 9
  obtain ⟨low, high, -, hhigh, -, hlt⟩ := hbetween (by decide) (by decide)
  cases hhigh
  refine ⟨_, h, hrank.trans (by decide), (hfewer 2 (by decide) (by decide)).trans ?_, hlt,
    hsame [.int 7] (by decide), hmono [] (by decide)⟩
  rw [hrank]
  decide

end Router

end RangeSort
