/-! Search by halving, for a property that holds up to some place and not after it. -/

namespace RangeSort

/-- The least index in `[low, high)` at which `p` fails, or `high`, when `p` never holds
again after it failed. -/
def firstFailure (p : Nat → Bool) (low high : Nat) : Nat :=
  if low < high then
    let middle := low + (high - low) / 2
    if p middle then firstFailure p (middle + 1) high else firstFailure p low middle
  else low
termination_by high - low

end RangeSort
