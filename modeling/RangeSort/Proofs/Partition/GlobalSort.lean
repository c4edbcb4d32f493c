import RangeSort.Proofs.Partition.Grouping
import RangeSort.Proofs.Partition.Routing
import RangeSort.Proofs.Partition.StableSort

/-! The contract of a distributed sort: partitions sorted one by one and joined in their
order are the stable sort of all records. -/

namespace RangeSort

theorem indicesOf_zipIdx_map {α : Type} (f : α → Nat) (p : Nat) (l : List α) :
    indicesOf p (l.map f).zipIdx = (l.zipIdx.filter fun x => f x.1 == p).map Prod.snd := by
  rw [indicesOf, List.zipIdx_map, List.filter_map, List.map_map]
  rfl

theorem filterMap_indicesOf {α : Type} (f : α → Nat) (p : Nat) (l : List α) :
    (indicesOf p (l.map f).zipIdx).filterMap (l[·]?) = l.filter fun a => f a == p := by
  have hfound : ∀ x ∈ l.zipIdx.filter (fun x => f x.1 == p), l[x.2]? = some x.1 :=
    fun x hx => List.mem_zipIdx_iff_getElem?.mp (List.mem_filter.mp hx).1
  calc (indicesOf p (l.map f).zipIdx).filterMap (l[·]?)
      = (l.zipIdx.filter fun x => f x.1 == p).filterMap (fun x => l[x.2]?) := by
        rw [indicesOf_zipIdx_map, List.filterMap_map]
        rfl
    _ = (l.zipIdx.filter fun x => f x.1 == p).filterMap (fun x => some x.1) :=
        List.filterMap_congr hfound
    _ = (l.zipIdx.map Prod.fst).filter fun a => f a == p := by
        rw [List.filter_map, ← List.filterMap_eq_map]
        rfl
    _ = l.filter fun a => f a == p := by rw [List.zipIdx_map_fst]

theorem lt_length_of_mem_indicesOf {ids : List Nat} {p i : Nat} (h : i ∈ indicesOf p ids.zipIdx) :
    i < ids.length := by
  obtain ⟨x, hx, rfl⟩ := List.mem_map.mp h
  have := List.snd_lt_of_mem_zipIdx (List.mem_filter.mp hx).1
  omega

namespace Router

variable {r : Router}

theorem ids_lt (r : Router) (records : List Row) (parts : Nat) :
    ∀ p ∈ records.map fun record => r.routeRecord record parts, p < max parts 1 := by
  intro p hp
  obtain ⟨record, -, rfl⟩ := List.mem_map.mp hp
  exact route_lt _ parts

theorem parts_group (r : Router) (records : List Row) (parts : Nat) :
    (r.group records parts).parts = max parts 1 :=
  Grouping.parts_ofIds (r.ids_lt records parts)

theorem rowsOf_group (r : Router) (records : List Row) {parts p : Nat} (hp : p < max parts 1) :
    (r.group records parts).rowsOf p =
      indicesOf p (records.map fun record => r.routeRecord record parts).zipIdx :=
  Grouping.rowsOf_ofIds (r.ids_lt records parts) hp

theorem lt_length_of_mem_rowsOf_group (r : Router) (records : List Row) {parts p i : Nat}
    (h : i ∈ (r.group records parts).rowsOf p) : i < records.length := by
  by_cases hp : p < max parts 1
  · rw [rowsOf_group r records hp] at h
    simpa using lt_length_of_mem_indicesOf h
  · rw [group, Grouping.rowsOf_of_parts_le (r.ids_lt records parts) (by omega)] at h
    cases h

/-- For every sorted table, sorting the partitions and joining them in order sorts all
records, and ties keep their order across the whole input. -/
theorem flatMap_sort_rowsOf_eq_sort {key : SortKey} {bounds : List Row}
    (h : ofBoundaries key bounds = .ok r) (records : List Row) (parts : Nat) :
    (r.group records parts).parts = max parts 1 ∧
      (∀ p, ∀ i ∈ (r.group records parts).rowsOf p, i < records.length) ∧
      ((List.range (r.group records parts).parts).flatMap fun p =>
        key.sort (((r.group records parts).rowsOf p).filterMap (records[·]?))) =
        key.sort records := by
  refine ⟨r.parts_group records parts, fun p i => r.lt_length_of_mem_rowsOf_group records, ?_⟩
  have hkey : r.key = key := by rw [(ofBoundaries_eq_ok h).1]
  have hclass : ∀ a b : Row, key.le (key.project a) (key.project b) = true →
      r.routeRecord a parts ≤ r.routeRecord b parts := by
    intro a b hab
    exact (sorted_ofBoundaries h).route_le_route (hkey ▸ hab) parts
  have hsort := mergeSort_eq_flatMap_sortedClass
    (fun a b c => key.le_trans (key.project a) (key.project b) (key.project c))
    (fun a b => key.le_total (key.project a) (key.project b)) hclass records
    (n := max parts 1) fun record _ => route_lt _ parts
  rw [SortKey.sort, hsort, r.parts_group]
  refine List.flatMap_congr fun p hp => ?_
  rw [r.rowsOf_group records (List.mem_range.mp hp), filterMap_indicesOf]
  rfl

/-- The largest first values first. -/
def largestFirst : SortKey := ⟨[⟨[0], .descending⟩], .empty⟩

/-- Rows of equal keys and rows without a key among them. -/
def unsortedRows : List Row :=
  [[.int 2], [.int 7, .null], [], [.bag []], [.int 7, .int 0], [.int 12]]

/-- Four boundaries, one of them twice, cut down to three partitions. -/
theorem flatMap_sort_rowsOf_eq_sort_clamped :
    ∃ r, ofBoundaries largestFirst [[.int 9], [.int 7], [.int 7], [.int 2]] = .ok r ∧
      (r.group unsortedRows 3).parts = 3 ∧
      ((List.range (r.group unsortedRows 3).parts).flatMap fun p =>
        largestFirst.sort (((r.group unsortedRows 3).rowsOf p).filterMap (unsortedRows[·]?))) =
        largestFirst.sort unsortedRows := by
  have h : ofBoundaries largestFirst [[.int 9], [.int 7], [.int 7], [.int 2]] =
      .ok ⟨largestFirst, #[[.int 9], [.int 7], [.int 7], [.int 2]]⟩ := rfl
  obtain ⟨hparts, -, hsort⟩ := flatMap_sort_rowsOf_eq_sort h unsortedRows 3
  exact ⟨_, h, hparts, hsort⟩

end Router

end RangeSort
