import RangeSort.Table.ColumnType

/-! Types compared by what they are made of. -/

namespace RangeSort

mutual

/-- Whether two types agree when names are disregarded. -/
def ColumnType.agrees : ColumnType → ColumnType → Bool
  | .boolean, .boolean => true
  | .int32, .int32 => true
  | .int64, .int64 => true
  | .float32, .float32 => true
  | .float64, .float64 => true
  | .utf8, .utf8 => true
  | .binary, .binary => true
  | .struct a, .struct b => agreesAll a b
  | .list a, .list b => a.agrees b
  | .other a, .other b => a == b
  | _, _ => false
termination_by structural t => t

def agreesAll : List ColumnField → List ColumnField → Bool
  | [], [] => true
  | a :: as, b :: bs => a.agrees b && agreesAll as bs
  | _, _ => false
termination_by structural fs => fs

def ColumnField.agrees : ColumnField → ColumnField → Bool
  | .mk _ t n, .mk _ u m => n == m && t.agrees u
termination_by structural f => f

end

instance : TypeEquality := ⟨ColumnType.agrees⟩

end RangeSort
