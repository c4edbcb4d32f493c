import Mathlib.Data.List.Nodup
import RangeSort.Proofs.Job
import RangeSort.Proofs.Partition.GlobalSort

/-! Partitions are balanced up to ties. A boundary is the key at its offset in the sorted
sample, so as many records lie below it as its offset says, less those that tie with it. -/

namespace RangeSort

section Counting

variable {α : Type} {le : α → α → Bool} {l : List α}

theorem countP_le_add {p q r : α → Bool} (h : ∀ a ∈ l, p a = true → q a = true ∨ r a = true) :
    l.countP p ≤ l.countP q + l.countP r := by
  induction l with
  | nil => exact Nat.zero_le _
  | cons a l ih =>
    have hrest := ih fun b hb => h b (List.mem_cons_of_mem a hb)
    have ha := h a List.mem_cons_self
    simp only [List.countP_cons]
    by_cases hp : p a = true
    · rcases ha hp with hq | hr
      · simp only [hp, hq, if_true]
        omega
      · simp only [hp, hr, if_true]
        omega
    · rw [if_neg hp]
      omega

/-- Nothing from an element on is below it. -/
theorem countP_below_getElem_le (hs : l.Pairwise fun a b => le a b = true)
    (hrefl : ∀ a, le a a = true) {i : Nat} (hi : i < l.length) :
    (l.countP fun a => !le l[i] a) ≤ i := by
  have hhigh : (l.drop i).countP (fun a => !le l[i] a) = 0 := by
    have hsplit := List.drop_eq_getElem_cons hi
    have htail : (l.drop i).Pairwise fun a b => le a b = true :=
      hs.sublist (List.drop_sublist i l)
    rw [hsplit, List.pairwise_cons] at htail
    rw [hsplit, List.countP_eq_zero]
    intro a ha
    rcases List.mem_cons.mp ha with rfl | ha
    · simp [hrefl]
    · simp [htail.1 a ha]
  calc l.countP (fun a => !le l[i] a)
      = (l.take i).countP (fun a => !le l[i] a) + (l.drop i).countP (fun a => !le l[i] a) := by
        rw [← List.countP_append, List.take_append_drop]
    _ ≤ i := by
        rw [hhigh, Nat.add_zero]
        exact Nat.le_trans List.countP_le_length (List.length_take_le i l)

/-- Everything up to an element is at most it. -/
theorem lt_countP_le_getElem (hs : l.Pairwise fun a b => le a b = true)
    (hrefl : ∀ a, le a a = true) {i : Nat} (hi : i < l.length) :
    i < l.countP fun a => le a l[i] := by
  have hlow : (l.take (i + 1)).countP (fun a => le a l[i]) = i + 1 := by
    have hlength : (l.take (i + 1)).length = i + 1 := List.length_take_of_le hi
    rw [List.countP_eq_length.mpr, hlength]
    intro a ha
    obtain ⟨j, hj, rfl⟩ := List.mem_iff_getElem.mp ha
    rw [List.getElem_take]
    rcases Nat.lt_or_eq_of_le (Nat.le_of_lt_succ (hlength ▸ hj)) with hlt | heq
    · exact List.pairwise_iff_getElem.mp hs j i _ hi hlt
    · simp only [heq]
      exact hrefl _
  calc i < (l.take (i + 1)).countP (fun a => le a l[i]) := by omega
    _ ≤ l.countP fun a => le a l[i] := (List.take_sublist (i + 1) l).countP_le

end Counting

namespace SortKey

variable {key : SortKey} {records bounds : List Row} {parts : Nat}

/-- Keys of records that are at most each other are the same. -/
theorem project_antisymm {a b : Row}
    (hab : key.le (key.project a) (key.project b) = true)
    (hba : key.le (key.project b) (key.project a) = true) : key.project a = key.project b := by
  have hlength (record : Row) : (key.project record).length = key.directions.length := by
    simp [project, directions]
  have heq : key.compare (key.project a) (key.project b) = .eq :=
    Std.OrientedCmp.isLE_antisymm (key.le_iff.mp hab) (key.le_iff.mp hba)
  exact eq_of_compareKeys (hlength a) (hlength b) heq

theorem getElem_boundaries (h : key.boundaries records parts = .ok bounds) {i : Nat} {b : Row}
    (hb : bounds[i]? = some b) :
    ∃ hi : quantileOffset records.length parts (i + 1) < (key.sortedKeys records).length,
      (key.sortedKeys records)[quantileOffset records.length parts (i + 1)] = b := by
  have hlength : (key.sortedKeys records).length = records.length := by
    simp [sortedKeys]
  unfold boundaries at h
  split at h
  · cases h
  · cases h
    unfold quantiles at hb
    split at hb
    · cases hb
    · rename_i hsize
      rw [List.getElem?_map, Option.map_eq_some_iff] at hb
      obtain ⟨j, hj, rfl⟩ := hb
      obtain ⟨hi, rfl⟩ := List.getElem?_eq_some_iff.mp hj
      rw [List.size_toArray, hlength] at hsize
      have hparts : i + 1 < parts := by
        rw [List.length_finRange] at hi
        omega
      refine ⟨by rw [hlength]; exact quantileOffset_lt hsize hparts, ?_⟩
      simp [hlength]

theorem length_boundaries (h : key.boundaries records parts = .ok bounds)
    (hne : records ≠ []) : bounds.length = parts - 1 := by
  have hsize : (key.sortedKeys records).length ≠ 0 := by
    simp [sortedKeys, hne]
  unfold boundaries at h
  split at h
  · cases h
  · cases h
    simp [quantiles, hsize]

/-- Before the sorted key at offset `i` stand no more than `i` keys, and up to it more. -/
theorem countP_sortedKeys {i : Nat} (hi : i < (key.sortedKeys records).length) :
    (records.map key.project).countP (fun k => !key.le (key.sortedKeys records)[i] k) ≤ i ∧
      i < (records.map key.project).countP fun k => key.le k (key.sortedKeys records)[i] := by
  have hperm : (key.sortedKeys records).Perm (records.map key.project) := List.mergeSort_perm _ _
  have hs : (key.sortedKeys records).Pairwise fun a b => key.le a b = true :=
    List.pairwise_mergeSort key.le_trans key.le_total _
  rw [← hperm.countP_eq, ← hperm.countP_eq]
  exact ⟨countP_below_getElem_le hs key.le_refl hi, lt_countP_le_getElem hs key.le_refl hi⟩

/-- The ranks of a boundary: the keys below it are no more than its offset, and with its ties
they are more than it. -/
theorem countP_below_boundary (h : key.boundaries records parts = .ok bounds) {i : Nat} {b : Row}
    (hb : bounds[i]? = some b) :
    (records.map key.project).countP (fun k => !key.le b k) ≤
        quantileOffset records.length parts (i + 1) ∧
      quantileOffset records.length parts (i + 1) <
        (records.map key.project).countP (fun k => !key.le b k) +
          (records.map key.project).count b := by
  obtain ⟨hi, hget⟩ := getElem_boundaries h hb
  obtain ⟨hlow, hhigh⟩ := countP_sortedKeys hi
  rw [hget] at hlow hhigh
  refine ⟨hlow, Nat.lt_of_lt_of_le hhigh (countP_le_add fun k hk hle => ?_)⟩
  obtain ⟨record, -, rfl⟩ := mem_boundaries h b (List.mem_of_getElem? hb)
  obtain ⟨other, -, rfl⟩ := List.mem_map.mp hk
  cases hge : key.le (key.project record) (key.project other) with
  | false => exact .inl rfl
  | true => exact .inr (beq_iff_eq.mpr (project_antisymm hle hge))

end SortKey

namespace Router

variable {r : Router}

/-- Below partition `i + 1` go the keys below boundary `i`. -/
theorem Sorted.route_lt_iff (h : r.Sorted) {parts i : Nat} (hi : i < r.boundaries.size)
    (hparts : i + 1 < parts) (k : Row) :
    r.route k parts < i + 1 ↔ r.key.le r.boundaries[i] k = false := by
  rw [← Bool.not_eq_true, h.le_iff_lt_rank hi, h.route_eq]
  omega

/-- The records assigned to the partitions below `p`. -/
def assignedBelow (r : Router) (records : List Row) (parts p : Nat) : Nat :=
  ((List.range p).flatMap (r.group records parts).rowsOf).length

theorem length_rowsOf_group (r : Router) (records : List Row) {parts p : Nat}
    (hp : p < max parts 1) :
    ((r.group records parts).rowsOf p).length =
      (records.map fun record => r.routeRecord record parts).count p := by
  rw [r.rowsOf_group records hp, Grouping.length_indicesOf_zipIdx]

theorem assignedBelow_succ (r : Router) (records : List Row) (parts p : Nat) :
    r.assignedBelow records parts (p + 1) =
      r.assignedBelow records parts p + ((r.group records parts).rowsOf p).length := by
  rw [assignedBelow, List.range_succ, List.flatMap_append, List.length_append,
    List.flatMap_singleton, assignedBelow]

theorem assignedBelow_eq (r : Router) (records : List Row) {parts p : Nat} (hp : p ≤ max parts 1) :
    r.assignedBelow records parts p =
      below (records.map fun record => r.routeRecord record parts) p := by
  induction p with
  | zero => simp [assignedBelow, below]
  | succ p ih =>
    rw [assignedBelow_succ, ih (Nat.le_of_succ_le hp), r.length_rowsOf_group records hp, below_succ]

theorem assignedBelow_parts (r : Router) (records : List Row) {parts : Nat} (hparts : 1 ≤ parts) :
    r.assignedBelow records parts parts = records.length := by
  rw [r.assignedBelow_eq records (Nat.le_max_left parts 1), below, List.countP_eq_length.mpr,
    List.length_map]
  intro p hp
  have := r.ids_lt records parts p hp
  simp only [decide_eq_true_eq]
  omega

theorem Sorted.assignedBelow_boundary (h : r.Sorted) (records : List Row) {parts i : Nat}
    (hi : i < r.boundaries.size) (hparts : i + 1 < parts) :
    r.assignedBelow records parts (i + 1) =
      (records.map r.key.project).countP fun k => !r.key.le r.boundaries[i] k := by
  rw [r.assignedBelow_eq records (by omega), below, List.countP_map, List.countP_map]
  refine List.countP_congr fun record _ => ?_
  have hroute := h.route_lt_iff hi hparts (r.key.project record)
  simpa only [Function.comp_apply, routeRecord, decide_eq_true_eq, Bool.not_eq_true'] using hroute

variable {key : SortKey} {records : List Row} {parts : Nat}

/-- Records routed by the boundaries of their own quantiles. Below a boundary go no more of
them than its offset, and at most its ties are missing there, itself not counted. Without ties
the partitions hold what lies between the offsets. -/
theorem assignedBelow_boundaries (hne : records ≠ []) (hparts : 1 ≤ parts)
    (hword : (parts - 1) * records.length < UInt64.size) :
    ∃ bounds r, (key.determineBoundaries records parts).result = .ok bounds ∧
      ofBoundaries key bounds = .ok r ∧ bounds.length + 1 = parts ∧
      (∀ i b, bounds[i]? = some b →
        r.assignedBelow records parts (i + 1) ≤ (i + 1) * records.length / parts ∧
        (i + 1) * records.length / parts <
          r.assignedBelow records parts (i + 1) + (records.map key.project).count b) ∧
      ((records.map key.project).Nodup → ∀ p < parts,
        ((r.group records parts).rowsOf p).length =
          (p + 1) * records.length / parts - p * records.length / parts) := by
  obtain ⟨bounds, hbounds⟩ : ∃ bounds, key.boundaries records parts = .ok bounds :=
    ⟨_, SortKey.boundaries_eq hparts⟩
  have hrouter := ofBoundaries_of_pairwise (SortKey.pairwise_boundaries hbounds hword)
  have hlength := SortKey.length_boundaries hbounds hne
  have hranks : ∀ i b, bounds[i]? = some b →
      assignedBelow ⟨key, bounds.toArray⟩ records parts (i + 1) ≤
          (i + 1) * records.length / parts ∧
        (i + 1) * records.length / parts <
          assignedBelow ⟨key, bounds.toArray⟩ records parts (i + 1) +
            (records.map key.project).count b := by
    intro i b hb
    obtain ⟨hi, rfl⟩ := List.getElem?_eq_some_iff.mp hb
    rw [(sorted_ofBoundaries hrouter).assignedBelow_boundary records (by simpa using hi) (by omega),
      ← quantileOffset_eq hword (by omega)]
    exact SortKey.countP_below_boundary hbounds hb
  refine ⟨bounds, _, SortKey.result_determineBoundaries parts hbounds, hrouter, by omega, hranks,
    fun hnodup p hp => ?_⟩
  have hexact : ∀ q ≤ parts, assignedBelow ⟨key, bounds.toArray⟩ records parts q =
      q * records.length / parts := by
    intro q hq
    cases q with
    | zero => simp [assignedBelow]
    | succ i =>
      rcases Nat.lt_or_eq_of_le hq with hlt | heq
      · have hb := List.getElem?_eq_getElem (l := bounds) (i := i) (by omega)
        obtain ⟨hle, hgt⟩ := hranks i _ hb
        obtain ⟨record, hrecord, hkey⟩ :=
          SortKey.mem_boundaries hbounds _ (List.mem_of_getElem? hb)
        have hone := List.count_eq_one_of_mem hnodup (List.mem_map.mpr ⟨record, hrecord, hkey⟩)
        omega
      · rw [heq, assignedBelow_parts _ records hparts, Nat.mul_div_cancel_left _ hparts]
  have hsucc := assignedBelow_succ ⟨key, bounds.toArray⟩ records parts p
  rw [hexact (p + 1) hp, hexact p (Nat.le_of_lt hp)] at hsucc
  omega

/-- Three records in five partitions. -/
theorem assignedBelow_boundaries_sparse :
    let records : List Row := [[.int 3], [], [.text "3", .int 1]]
    records ≠ [] ∧ (records.map largestFirst.project).Nodup ∧
      ∃ bounds r, (largestFirst.determineBoundaries records 5).result = .ok bounds ∧
        ofBoundaries largestFirst bounds = .ok r ∧
        (List.range 5).map (fun p => ((r.group records 5).rowsOf p).length) = [0, 1, 0, 1, 1] := by
  intro records
  have hne : records ≠ [] := List.cons_ne_nil _ _
  have hnodup : (records.map largestFirst.project).Nodup := by
    simp [records, SortKey.project, largestFirst, Row.follow, Row.item]
  obtain ⟨bounds, r, hbounds, hr, -, -, hexact⟩ :=
    @assignedBelow_boundaries largestFirst records 5 hne (by decide) (by decide)
  refine ⟨hne, hnodup, bounds, r, hbounds, hr, ?_⟩
  calc (List.range 5).map (fun p => ((r.group records 5).rowsOf p).length)
      = (List.range 5).map (fun p => (p + 1) * 3 / 5 - p * 3 / 5) :=
        List.map_congr_left fun p hp => hexact hnodup p (List.mem_range.mp hp)
    _ = [0, 1, 0, 1, 1] := by decide

end Router

end RangeSort
