import RangeSort.Error

/-! Values column by column. A column keeps the values of one field of all rows; nested
rows are columns of their own beside a mask, and the elements of bags lie end to end. -/

namespace RangeSort

/-- A place in a column of lists: how many of the items belong to it. -/
structure ListSlot where
  present : Bool
  length : Nat
  deriving DecidableEq, Repr

inductive Column where
  | boolean (cells : List (Option Bool))
  | int32 (cells : List (Option Int32))
  | int64 (cells : List (Option Int64))
  | float32 (cells : List (Option UInt32))
  | float64 (cells : List (Option UInt64))
  | utf8 (cells : List (Option String))
  | binary (cells : List (Option Octets))
  | struct (present : List Bool) (children : List Column)
  | list (slots : List ListSlot) (items : Column)
  | other (type : ColumnType) (length : Nat)

namespace Column

/-- Stores values that `pick` accepts, and nulls. -/
def pickCells {α : Type} (type : ColumnType) (pick : Value → Option α) (values : List Value) :
    Except SchemaFault (List (Option α)) :=
  values.mapM fun v =>
    match v, pick v with
    | .null, _ => .ok none
    | _, some a => .ok (some a)
    | _, none => .error (.cannotStore v type)

def boolean? : Value → Option Bool
  | .boolean b => some b
  | _ => none

def int32? : Value → Option Int32
  | .int n => some n
  | _ => none

def int64? : Value → Option Int64
  | .long n => some n
  | _ => none

def float32? : Value → Option UInt32
  | .float b => some b
  | _ => none

def float64? : Value → Option UInt64
  | .double b => some b
  | _ => none

def binary? : Value → Option Octets
  | .bytes b => some b
  | _ => none

def tuple? : Value → Option Row
  | .tuple items => some items
  | _ => none

def bag? : Value → Option (List Row)
  | .bag rows => some rows
  | _ => none

def slot (rows : Option (List Row)) : ListSlot :=
  ⟨rows.isSome, (rows.getD []).length⟩

mutual

/-- The column of a list of values. What lies in a null row is null. -/
def encode : ColumnType → List Value → Except SchemaFault Column
  | .boolean, values => (pickCells .boolean boolean? values).map .boolean
  | .int32, values => (pickCells .int32 int32? values).map .int32
  | .int64, values => (pickCells .int64 int64? values).map .int64
  | .float32, values => (pickCells .float32 float32? values).map .float32
  | .float64, values => (pickCells .float64 float64? values).map .float64
  | .utf8, values => (pickCells .utf8 Value.text? values).map .utf8
  | .binary, values => (pickCells .binary binary? values).map .binary
  | .struct fields, values => do
    let rows ← pickCells (.struct fields) tuple? values
    let children ← encodeFields fields (rows.map fun r => r.getD [])
    return .struct (rows.map Option.isSome) children
  | .list item, values => do
    let bags ← pickCells (.list item) bag? values
    let items ← encodeField item ((bags.flatMap fun b => b.getD []).map .tuple)
    return .list (bags.map slot) items
  | .other name, _ => .error (.unknownColumn (.other name))
termination_by structural t => t

/-- One column per field; each takes the first value that the fields before it left. -/
def encodeFields : List ColumnField → List Row → Except SchemaFault (List Column)
  | [], _ => .ok []
  | f :: fs, rows => do
    let first ← encodeField f (rows.map fun r => r.headD .null)
    let rest ← encodeFields fs (rows.map List.tail)
    return first :: rest
termination_by structural fs => fs

def encodeField : ColumnField → List Value → Except SchemaFault Column
  | .mk _ type _, values => encode type values
termination_by structural f => f

end

/-- A value that has been read, or what stands in its way. -/
abbrev Cell := Except SchemaFault Value

def plainCells {α : Type} (wrap : α → Value) (cells : List (Option α)) : List Cell :=
  cells.map fun c => .ok (c.elim .null wrap)

/-- The first `length` rows across columns of cells. -/
def acrossColumns : (length : Nat) → List (List Cell) → List (Except SchemaFault Row)
  | 0, _ => []
  | n + 1, columns =>
    (columns.mapM fun c => c.headD (.ok .null)) :: acrossColumns n (columns.map List.tail)

def tupleCell (present : Bool) (row : Except SchemaFault Row) : Cell :=
  if present then row.map .tuple else .ok .null

/-- Bags hold tuples only. -/
def element (cell : Cell) : Except SchemaFault Row := do
  match ← cell with
  | .tuple items => return items
  | v => .error (.notTuple v.kind)

/-- The lists whose items lie end to end. -/
def listCells : List ListSlot → List Cell → List Cell
  | [], _ => []
  | s :: slots, items =>
    let first := if s.present then ((items.take s.length).mapM element).map .bag else .ok .null
    first :: listCells slots (items.drop s.length)

mutual

/-- The values of a column. Values under a null are not looked at. -/
def cells : Column → List Cell
  | .boolean values => plainCells .boolean values
  | .int32 values => plainCells .int values
  | .int64 values => plainCells .long values
  | .float32 values => plainCells .float values
  | .float64 values => plainCells .double values
  | .utf8 values => plainCells .text values
  | .binary values => plainCells .bytes values
  | .struct present children =>
    present.zipWith tupleCell (acrossColumns present.length (cellsOfAll children))
  | .list slots items => listCells slots items.cells
  | .other type length => List.replicate length (.error (.unknownColumn type))
termination_by structural c => c

def cellsOfAll : List Column → List (List Cell)
  | [] => []
  | c :: cs => c.cells :: cellsOfAll cs
termination_by structural cs => cs

end

end Column

end RangeSort
