import RangeSort.Proofs.Partition.Balance

/-! Boundaries are order statistics of the sampled keys. They do not depend on the order of the
sample, because keys that tie are the same. -/

namespace RangeSort.SortKey

variable {key : SortKey} {records bounds : List Row} {parts : Nat}

theorem sortedKeys_eq_of_perm (key : SortKey) {other : List Row} (h : other.Perm records) :
    key.sortedKeys other = key.sortedKeys records := by
  have hs (l : List Row) : (key.sortedKeys l).Pairwise fun a b => key.le a b = true :=
    List.pairwise_mergeSort key.le_trans key.le_total _
  have hkeys (l : List Row) : (key.sortedKeys l).Perm (l.map key.project) :=
    List.mergeSort_perm _ _
  refine List.Perm.eq_of_pairwise (fun a b ha hb hab hba => ?_) (hs other) (hs records)
    ((hkeys other).trans ((h.map key.project).trans (hkeys records).symm))
  obtain ⟨record, -, rfl⟩ := List.mem_map.mp ((hkeys other).mem_iff.mp ha)
  obtain ⟨record', -, rfl⟩ := List.mem_map.mp ((hkeys records).mem_iff.mp hb)
  exact project_antisymm hab hba

theorem determineBoundaries_eq_of_perm (key : SortKey) {other : List Row}
    (h : other.Perm records) (parts : Nat) :
    key.determineBoundaries other parts = key.determineBoundaries records parts := by
  have hempty : other.isEmpty = records.isEmpty := by
    rw [Bool.eq_iff_iff, List.isEmpty_iff, List.isEmpty_iff, ← List.length_eq_zero_iff,
      h.length_eq, List.length_eq_zero_iff]
  rw [determineBoundaries, boundaries, key.sortedKeys_eq_of_perm h, h.length_eq, hempty]
  rfl

/-- The boundary in front of partition `i` is the sorted key at offset `i * n / parts`. -/
theorem getElem?_boundaries (h : key.boundaries records parts = .ok bounds) (hne : records ≠ [])
    (hword : (parts - 1) * records.length < UInt64.size) {i : Nat} (hpos : 1 ≤ i) (hi : i < parts) :
    ∃ b, bounds[i - 1]? = some b ∧ i * records.length / parts < records.length ∧
      (key.sortedKeys records)[i * records.length / parts]? = some b := by
  have hlength := length_boundaries h hne
  have hb : bounds[i - 1]? = some bounds[i - 1] := List.getElem?_eq_getElem (by omega)
  obtain ⟨hlt, hget⟩ := getElem_boundaries h hb
  have hsub : i - 1 + 1 = i := Nat.sub_add_cancel hpos
  simp only [hsub, quantileOffset_eq hword hi] at hlt hget
  refine ⟨_, hb, ?_, ?_⟩
  · simpa [sortedKeys] using hlt
  · rw [List.getElem?_eq_getElem hlt, hget]

theorem rank_of_getElem?_sortedKeys {r : Nat} {b : Row}
    (hb : (key.sortedKeys records)[r]? = some b) :
    records.countP (fun record => (key.compare (key.project record) b).isLT) ≤ r ∧
      r < records.countP fun record => (key.compare (key.project record) b).isLE := by
  obtain ⟨hr, rfl⟩ := List.getElem?_eq_some_iff.mp hb
  obtain ⟨hlow, hhigh⟩ := countP_sortedKeys hr
  rw [List.countP_map] at hlow hhigh
  constructor
  · refine Nat.le_trans (List.countP_mono_left fun record _ h => ?_) hlow
    simpa [key.compare_eq_lt] using h
  · refine Nat.lt_of_lt_of_le hhigh (List.countP_mono_left fun record _ h => ?_)
    exact key.le_iff.mp h

/-- Boundaries of a sample: one less than the partitions, and keys of the sample. As long as the
offsets do not wrap, they stand in their order, each of the rank that its partition begins with.
There are none for an empty sample. Whatever the order of the sample, the boundaries and what is
reported are the same. -/
theorem determineBoundaries_orderStatistics (key : SortKey) (records : List Row) :
    (key.determineBoundaries records 0).result = .error (.config .noPartitions) ∧
      (∀ parts, 1 ≤ parts → ∃ bounds,
        (key.determineBoundaries records parts).result = .ok bounds ∧
        (records = [] → bounds = []) ∧
        (records ≠ [] → bounds.length = parts - 1) ∧
        (∀ b ∈ bounds, ∃ record ∈ records, key.project record = b) ∧
        ((parts - 1) * records.length < UInt64.size →
          (bounds.Pairwise fun a b => (key.compare a b).isLE) ∧
          (∃ r, Router.ofBoundaries key bounds = .ok r) ∧
          (records ≠ [] → ∀ i, 1 ≤ i → i < parts →
            let r := i * records.length / parts
            ∃ b, bounds[i - 1]? = some b ∧ r < records.length ∧
              (key.sortedKeys records)[r]? = some b ∧
              records.countP (fun record => (key.compare (key.project record) b).isLT) ≤ r ∧
              r < records.countP fun record => (key.compare (key.project record) b).isLE))) ∧
      ∀ other, other.Perm records → ∀ parts,
        key.determineBoundaries other parts = key.determineBoundaries records parts := by
  refine ⟨rfl, fun parts hparts => ?_, fun other h => key.determineBoundaries_eq_of_perm h⟩
  obtain ⟨bounds, hbounds⟩ : ∃ bounds, key.boundaries records parts = .ok bounds :=
    ⟨_, boundaries_eq hparts⟩
  refine ⟨bounds, result_determineBoundaries parts hbounds, fun hempty => ?_,
    length_boundaries hbounds, mem_boundaries hbounds, fun hword => ?_⟩
  · refine List.eq_nil_iff_forall_not_mem.mpr fun b hb => ?_
    obtain ⟨record, hrecord, -⟩ := mem_boundaries hbounds b hb
    rw [hempty] at hrecord
    cases hrecord
  · have hpairwise := pairwise_boundaries hbounds hword
    refine ⟨hpairwise, ⟨_, Router.ofBoundaries_of_pairwise hpairwise⟩, fun hne i hpos hi => ?_⟩
    obtain ⟨b, hb, hr, hsorted⟩ := getElem?_boundaries hbounds hne hword hpos hi
    exact ⟨b, hb, hr, hsorted, rank_of_getElem?_sortedKeys hsorted⟩

/-- Six records in seven partitions, and the same records backwards. -/
theorem determineBoundaries_orderStatistics_reversed :
    let key := Router.largestFirst
    let records := Router.unsortedRows
    records ≠ [] ∧ records.reverse.Perm records ∧ ∃ bounds b,
      (key.determineBoundaries records.reverse 7).result = .ok bounds ∧ bounds.length = 6 ∧
      bounds[3]? = some b ∧
      records.countP (fun record => (key.compare (key.project record) b).isLT) ≤ 3 ∧
      3 < records.countP fun record => (key.compare (key.project record) b).isLE := by
  intro key records
  have hne : records ≠ [] := List.cons_ne_nil _ _
  have hreverse : records.reverse.Perm records := records.reverse_perm
  obtain ⟨-, hall, hperm⟩ := determineBoundaries_orderStatistics key records
  obtain ⟨bounds, hbounds, -, hlength, -, hordered⟩ := hall 7 (by decide)
  obtain ⟨-, -, hranks⟩ := hordered (by decide)
  obtain ⟨b, hb, -, -, hbelow, habove⟩ := hranks hne 4 (by decide) (by decide)
  have hoffset : 4 * records.length / 7 = 3 := by decide
  rw [hoffset] at hbelow habove
  refine ⟨hne, hreverse, bounds, b, ?_, hlength hne, hb, hbelow, habove⟩
  rw [hperm _ hreverse, hbounds]

end RangeSort.SortKey
