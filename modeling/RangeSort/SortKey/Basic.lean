import RangeSort.Schema.Edit
import RangeSort.Schema.Nesting

/-! Sort keys: which values of a record are compared, and in which direction. -/

namespace RangeSort

/-- The first offset of the path selects a field of the record and each further one a
field of the tuple found before. -/
structure KeyColumn where
  path : List Nat
  direction : Direction
  deriving DecidableEq, Repr

structure SortKey where
  columns : List KeyColumn
  /-- The schema of the key itself, one field per column. -/
  schema : Schema

instance : BEq SortKey := ⟨fun a b => a.columns == b.columns && a.schema == b.schema⟩

/-- The field at the end of the path `whole`, of which `path` remains below `f`. -/
def Field.resolve (whole : List Nat) : List Nat → Field → Except SchemaFault Field
  | [], f => if f.kind = .map then .error (.mapKey f.label) else .ok f
  | i :: path, f =>
    if f.kind ≠ .tuple then .error (.pathThrough whole f.label f.kind)
    else match f.nested.bind fun s => s.fields[i]? with
      | none => .error (.noFieldAt whole i f.label)
      | some g => g.resolve whole path

def Schema.resolve (s : Schema) (path : List Nat) : Except SchemaFault Field :=
  match path with
  | [] => .error .emptyPath
  | i :: rest =>
    match s.fields[i]? with
    | none => .error (.pathOutOfRange path s.fields.length)
    | some f => f.resolve path rest

/-- The value at the end of a path. It is null below a null or missing tuple. -/
def Row.follow : List Nat → Row → Value
  | [], _ => .null
  | i :: path, row =>
    if path.isEmpty then row.item i
    else match row.item i with
      | .tuple items => Row.follow path items
      | _ => .null

namespace SortKey

def ofColumns (schema : Schema) (columns : List KeyColumn) : Except SchemaFault SortKey := do
  let fields ← columns.mapM fun c => schema.resolve c.path
  let unsorted ← Schema.ofFields? fields
  let key ← unsorted.withSortKeys (List.range columns.length) (columns.map KeyColumn.direction)
  return ⟨columns, key⟩

/-- The sort key that a schema itself declares. -/
def ofSchema (schema : Schema) : Except SchemaFault SortKey :=
  ofColumns schema <|
    (schema.keyOffsets.zip schema.keyDirections).map fun (offset, d) => ⟨[offset], d⟩

def directions (key : SortKey) : List Direction :=
  key.columns.map KeyColumn.direction

def project (key : SortKey) (record : Row) : Row :=
  key.columns.map fun c => record.follow c.path

end SortKey

end RangeSort
