import RangeSort.SortKey.Basic
import RangeSort.Value.Order

/-! The order of keys: position by position, each in its direction. -/

namespace RangeSort

def Direction.compare (d : Direction) (a b : Value) : Ordering :=
  match d with
  | .ascending => a.compare b
  | .descending => b.compare a

/-- Missing values count as null and those beyond the directions do not count. -/
def compareKeys : List Direction → Row → Row → Ordering
  | [], _, _ => .eq
  | d :: ds, a, b => (d.compare (a.headD .null) (b.headD .null)).then (compareKeys ds a.tail b.tail)

namespace SortKey

def compare (key : SortKey) (a b : Row) : Ordering :=
  compareKeys key.directions a b

def le (key : SortKey) (a b : Row) : Bool :=
  key.compare a b != .gt

/-- Records in the order of their keys; equal keys keep their order. -/
def sort (key : SortKey) (records : List Row) : List Row :=
  records.mergeSort fun a b => key.le (key.project a) (key.project b)

end SortKey

end RangeSort
