import RangeSort.Binary.Format
import RangeSort.Value.Basic

/-! The total order of values. Null comes first and kinds follow their rank; tuples
compare position by position, bags and maps first by size. -/

namespace RangeSort

mutual

def Value.compare : Value → Value → Ordering
  | .null, .null => .eq
  | .boolean a, .boolean b => Ord.compare a b
  | .int a, .int b => Ord.compare a.toInt b.toInt
  | .long a, .long b => Ord.compare a.toInt b.toInt
  | .float a, .float b => binary32.compare a.toNat b.toNat
  | .double a, .double b => binary64.compare a.toNat b.toNat
  | .bytes a, .bytes b => List.compareLex Ord.compare a b
  | .text a, .text b => Ord.compare a b
  | .map a, .map b => (Ord.compare a.length b.length).then (compareEntries a b)
  | .tuple a, .tuple b => compareItems a b
  | .bag a, .bag b => (Ord.compare a.length b.length).then (compareRows a b)
  | a, b => Ord.compare a.kind.rank b.kind.rank
termination_by structural a => a

def compareItems : List Value → List Value → Ordering
  | [], [] => .eq
  | [], _ :: _ => .lt
  | _ :: _, [] => .gt
  | a :: as, b :: bs => (a.compare b).then (compareItems as bs)
termination_by structural a => a

def compareRows : List (List Value) → List (List Value) → Ordering
  | [], [] => .eq
  | [], _ :: _ => .lt
  | _ :: _, [] => .gt
  | a :: as, b :: bs => (compareItems a b).then (compareRows as bs)
termination_by structural a => a

def compareEntries : List (String × Value) → List (String × Value) → Ordering
  | [], [] => .eq
  | [], _ :: _ => .lt
  | _ :: _, [] => .gt
  | a :: as, b :: bs => (compareEntry a b).then (compareEntries as bs)
termination_by structural a => a

def compareEntry : String × Value → String × Value → Ordering
  | (k, a), (l, b) => (Ord.compare k l).then (a.compare b)
termination_by structural a => a

end

/-- Values are equal when they compare equal. -/
instance : BEq Value where
  beq a b := a.compare b == .eq

end RangeSort
