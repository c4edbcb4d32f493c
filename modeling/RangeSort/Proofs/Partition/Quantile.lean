import RangeSort.Partition.Quantile
import RangeSort.Proofs.SortKey.Order

/-! Boundaries are keys of the sample, in their order. -/

namespace RangeSort

/-- Products that fit in a word are not wrapped. -/
theorem quantileOffset_eq {size parts i : Nat} (hword : (parts - 1) * size < UInt64.size)
    (hi : i < parts) : quantileOffset size parts i = i * size / parts := by
  rw [quantileOffset, Nat.mod_eq_of_lt]
  exact Nat.lt_of_le_of_lt (Nat.mul_le_mul_right size (Nat.le_sub_one_of_lt hi)) hword

/-- One product too great, and the last boundary is the least key. -/
example : quantileOffset (2 ^ 32) (2 ^ 32 + 1) (2 ^ 32 - 1) = 2 ^ 32 - 2 ∧
    quantileOffset (2 ^ 32) (2 ^ 32 + 1) (2 ^ 32) = 0 := by
  decide

theorem mem_of_mem_quantiles {keys : Array Row} {parts : Nat} {b : Row}
    (h : b ∈ quantiles keys parts) : b ∈ keys := by
  unfold quantiles at h
  split at h
  · cases h
  · obtain ⟨i, -, rfl⟩ := List.mem_map.mp h
    exact Array.getElem_mem _

theorem pairwise_quantiles {R : Row → Row → Prop} (hrefl : ∀ a, R a a) {keys : Array Row}
    (h : keys.toList.Pairwise R) {parts : Nat} (hword : (parts - 1) * keys.size < UInt64.size) :
    (quantiles keys parts).Pairwise R := by
  unfold quantiles
  split
  · exact .nil
  · rename_i hsize
    rw [List.pairwise_map]
    refine (List.pairwise_lt_finRange _).imp ?_
    intro i j hij
    have hi : i.val + 1 < parts := Nat.add_lt_of_lt_sub i.isLt
    have hj : j.val + 1 < parts := Nat.add_lt_of_lt_sub j.isLt
    have hle : quantileOffset keys.size parts (i.val + 1) ≤
        quantileOffset keys.size parts (j.val + 1) := by
      rw [quantileOffset_eq hword hi, quantileOffset_eq hword hj]
      exact Nat.div_le_div_right (Nat.mul_le_mul_right _ (Nat.succ_le_succ (Nat.le_of_lt hij)))
    rcases Nat.lt_or_eq_of_le hle with hlt | heq
    · have hi := quantileOffset_lt hsize hi
      have hj := quantileOffset_lt hsize hj
      exact List.pairwise_iff_getElem.mp h _ _ (by simpa) (by simpa) hlt
    · simp only [heq]
      exact hrefl _

namespace SortKey

variable {key : SortKey} {records bounds : List Row} {parts : Nat}

theorem boundaries_eq (hparts : 1 ≤ parts) :
    key.boundaries records parts = .ok (quantiles (key.sortedKeys records).toArray parts) := by
  rw [boundaries, if_neg (by omega)]

theorem boundaries_singleton (key : SortKey) (record : Row) :
    key.boundaries [record] 2 = .ok [key.project record] := by
  rw [boundaries_eq (by omega), sortedKeys, List.map_singleton, List.mergeSort_singleton]
  simp [quantiles, List.finRange_succ]

theorem mem_boundaries (h : key.boundaries records parts = .ok bounds) :
    ∀ b ∈ bounds, ∃ record ∈ records, key.project record = b := by
  intro b hb
  unfold boundaries at h
  split at h
  · cases h
  · cases h
    have := mem_of_mem_quantiles hb
    rw [List.mem_toArray, sortedKeys, List.mem_mergeSort] at this
    exact List.mem_map.mp this

theorem pairwise_boundaries (h : key.boundaries records parts = .ok bounds)
    (hword : (parts - 1) * records.length < UInt64.size) :
    bounds.Pairwise fun a b => (key.compare a b).isLE := by
  unfold boundaries at h
  split at h
  · cases h
  · cases h
    refine pairwise_quantiles (fun a => by simp [Std.ReflCmp.compare_self]) ?_ (by simpa [sortedKeys])
    have := List.pairwise_mergeSort key.le_trans key.le_total (records.map key.project)
    exact this.imp fun hab => key.le_iff.mp hab

end SortKey

end RangeSort
