import RangeSort.Text.Quoted

/-! Types of table columns and how messages spell them. -/

namespace RangeSort

mutual

inductive ColumnType where
  | boolean
  | int32
  | int64
  | float32
  | float64
  | utf8
  | binary
  | struct (fields : List ColumnField)
  | list (item : ColumnField)
  /-- A type that no field kind maps to. -/
  | other (name : String)

inductive ColumnField where
  | mk (name : String) (type : ColumnType) (nullable : Bool)

end

namespace ColumnField

def name : ColumnField → String
  | mk n _ _ => n

def type : ColumnField → ColumnType
  | mk _ t _ => t

def nullable : ColumnField → Bool
  | mk _ _ b => b

end ColumnField

mutual

/-- The full spelling, with every property of nested fields. -/
def ColumnType.full : ColumnType → String
  | .boolean => "Boolean"
  | .int32 => "Int32"
  | .int64 => "Int64"
  | .float32 => "Float32"
  | .float64 => "Float64"
  | .utf8 => "Utf8"
  | .binary => "Binary"
  | .struct fields => "Struct([" ++ ", ".intercalate (fullFields fields) ++ "])"
  | .list item => "List(" ++ item.full ++ ")"
  | .other name => name
termination_by structural t => t

def fullFields : List ColumnField → List String
  | [] => []
  | f :: fs => f.full :: fullFields fs
termination_by structural fs => fs

def ColumnField.full : ColumnField → String
  | .mk name type nullable =>
    "Field \x7b name: " ++ quotedText name ++ ", data_type: " ++ type.full ++
      ", nullable: " ++ toString nullable ++
      ", dict_id: 0, dict_is_ordered: false, metadata: \x7b\x7d \x7d"
termination_by structural f => f

end

mutual

/-- The short spelling, in which a struct lists names and types. -/
def ColumnType.short : ColumnType → String
  | .struct fields => "Struct(" ++ ", ".intercalate (shortFields fields) ++ ")"
  | t => t.full
termination_by structural t => t

def shortFields : List ColumnField → List String
  | [] => []
  | f :: fs => f.short :: shortFields fs
termination_by structural fs => fs

def ColumnField.short : ColumnField → String
  | .mk name type _ => name ++ " " ++ type.short
termination_by structural f => f

end

/-- How the type of a stored column is compared with the type of a key. -/
class TypeEquality where
  agrees : (stored expected : ColumnType) → Bool

end RangeSort
