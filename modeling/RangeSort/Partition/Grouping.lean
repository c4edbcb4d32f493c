import RangeSort.Partition.Router

/-! Row indices grouped by partition, by counting. -/

namespace RangeSort

/-- Partition `p` owns the entries of `rows` from `starts[p]` up to `starts[p + 1]`. -/
structure Grouping where
  ids : List Nat
  starts : Array Nat
  rows : Array Nat
  deriving DecidableEq, Repr

namespace Grouping

/-- How many rows each partition has, with one more entry that stays zero. -/
def counts (ids : List Nat) (parts : Nat) : Array Nat :=
  ids.foldl (fun c p => c.modify p (· + 1)) (Array.replicate (parts + 1) 0)

def runningTotals (total : Nat) : List Nat → List Nat
  | [] => []
  | n :: ns => (total + n) :: runningTotals (total + n) ns

/-- Takes the last free place of the row's partition. -/
def place (cursors rows : Array Nat) (part index : Nat) : Array Nat × Array Nat :=
  let cursor := cursors.getD part 0 - 1
  (cursors.setIfInBounds part cursor, rows.setIfInBounds cursor index)

/-- Rows are placed from the last to the first, so that each partition keeps them in
input order and its cursor ends at its start. -/
def ofIds (ids : List Nat) (parts : Nat) : Grouping :=
  let ends := (runningTotals 0 (counts ids parts).toList).toArray
  let placed := ids.zipIdx.foldr (fun (part, index) (cursors, rows) => place cursors rows part index)
    (ends, Array.replicate ids.length 0)
  ⟨ids, placed.1, placed.2⟩

def parts (g : Grouping) : Nat := g.starts.size - 1

/-- The rows of a partition; there are none past the last one. -/
def rowsOf (g : Grouping) (part : Nat) : List Nat :=
  match g.starts[part]?, g.starts[part + 1]? with
  | some low, some high => (g.rows.extract low high).toList
  | _, _ => []

end Grouping

def Router.group (r : Router) (records : List Row) (parts : Nat) : Grouping :=
  .ofIds (records.map fun record => r.routeRecord record parts) (max parts 1)

end RangeSort
