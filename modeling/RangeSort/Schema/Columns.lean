import RangeSort.Error
import RangeSort.Schema.Basic

/-! The table columns that hold rows of a schema. -/

namespace RangeSort

/-- Columns are named; a field without a name takes that of its position. -/
def columnName (index : Nat) (name : Option String) : String :=
  name.getD ("_" ++ String.ofList (natChars index))

/-- The column of a field, once the columns of its nested rows are known. -/
def columnType (name : String) (nested : List ColumnField) : Kind → Except SchemaFault ColumnType
  | .boolean => .ok .boolean
  | .int => .ok .int32
  | .long => .ok .int64
  | .float => .ok .float32
  | .double => .ok .float64
  | .text => .ok .utf8
  | .bytes | .unknown => .ok .binary
  | .tuple => .ok (.struct nested)
  | .bag => .ok (.list (.mk "item" (.struct nested) true))
  | .map => .error (.mapColumn name)

mutual

def Schema.columns : Schema → Except SchemaFault (List ColumnField)
  | ⟨_, fields, _, _⟩ => columnsFrom 0 fields
termination_by structural s => s

def columnsFrom (index : Nat) : List Field → Except SchemaFault (List ColumnField)
  | [] => .ok []
  | f :: fs => do
    let type ← f.column
    let rest ← columnsFrom (index + 1) fs
    return .mk (columnName index f.name) type true :: rest
termination_by structural fs => fs

def Field.column : Field → Except SchemaFault ColumnType
  | ⟨name, kind, _, nested⟩ => do
    let inner ← match kind with
      | .tuple => tupleColumns nested
      | .bag => elementColumns nested
      | _ => .ok []
    columnType (name.getD "") inner kind
termination_by structural f => f

def tupleColumns : Option Schema → Except SchemaFault (List ColumnField)
  | none => .ok []
  | some s => s.columns
termination_by structural s => s

/-- The elements of a bag are described by the nested schema of its first field. -/
def elementColumns : Option Schema → Except SchemaFault (List ColumnField)
  | none => .ok []
  | some ⟨_, fields, _, _⟩ => firstColumns fields
termination_by structural s => s

def firstColumns : List Field → Except SchemaFault (List ColumnField)
  | [] => .ok []
  | f :: _ => f.nestedColumns
termination_by structural fs => fs

def Field.nestedColumns : Field → Except SchemaFault (List ColumnField)
  | ⟨_, _, _, nested⟩ => tupleColumns nested
termination_by structural f => f

end

end RangeSort
