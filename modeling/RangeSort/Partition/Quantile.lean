import RangeSort.Error
import RangeSort.SortKey.Order

/-! Partition boundaries at the quantiles of a sample. -/

namespace RangeSort

/-- The offset of the key in front of part `i`. The product is a word of 64 bits, in which a
greater one wraps. -/
def quantileOffset (size parts i : Nat) : Nat :=
  i * size % UInt64.size / parts

theorem quantileOffset_lt {size parts i : Nat} (hsize : size ≠ 0) (hi : i < parts) :
    quantileOffset size parts i < size := by
  refine Nat.div_lt_of_lt_mul (Nat.lt_of_le_of_lt (Nat.mod_le _ _) ?_)
  exact Nat.mul_lt_mul_of_pos_right hi (Nat.pos_of_ne_zero hsize)

/-- The keys at the offsets of all parts but the first. -/
def quantiles (keys : Array Row) (parts : Nat) : List Row :=
  if h : keys.size = 0 then []
  else (List.finRange (parts - 1)).map fun i : Fin (parts - 1) =>
    have hi := quantileOffset_lt h (Nat.add_lt_of_lt_sub i.isLt)
    keys[quantileOffset keys.size parts (i.val + 1)]

namespace SortKey

def sortedKeys (key : SortKey) (records : List Row) : List Row :=
  (records.map key.project).mergeSort key.le

/-- The keys that split `records` into `parts` runs of about equal size. -/
def boundaries (key : SortKey) (records : List Row) (parts : Nat) :
    Except ConfigFault (List Row) :=
  if parts = 0 then .error .noPartitions
  else .ok (quantiles (key.sortedKeys records).toArray parts)

end SortKey

end RangeSort
