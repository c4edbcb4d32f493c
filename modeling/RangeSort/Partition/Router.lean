import RangeSort.Bisection
import RangeSort.Error
import RangeSort.SortKey.Order

/-! Routing of keys by a table of boundaries. Partition `p` holds the keys from boundary
`p - 1` on and below boundary `p`. -/

namespace RangeSort

/-- The first neighbours that are out of order. -/
def firstDescent {α : Type} (compare : α → α → Ordering) : List α → Option (α × α)
  | a :: b :: rest =>
    if compare a b = .gt then some (a, b) else firstDescent compare (b :: rest)
  | _ => none

structure Router where
  key : SortKey
  boundaries : Array Row

namespace Router

def ofBoundaries (key : SortKey) (boundaries : List Row) : Except Error Router :=
  match firstDescent key.compare boundaries with
  | some (a, b) => .error (.unsorted a b)
  | none => .ok ⟨key, boundaries.toArray⟩

/-- Whether boundary `i` is at most `key`. -/
def reaches (r : Router) (key : Row) (i : Nat) : Bool :=
  r.boundaries[i]?.any fun b => r.key.le b key

/-- The partition of a key, below `max parts 1`. Keys above the table go to the last
partition. -/
def route (r : Router) (key : Row) (parts : Nat) : Nat :=
  min (firstFailure (r.reaches key) 0 r.boundaries.size) (parts - 1)

def routeRecord (r : Router) (record : Row) (parts : Nat) : Nat :=
  r.route (r.key.project record) parts

end Router

end RangeSort
