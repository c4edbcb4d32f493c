import RangeSort.Binary.Layout
import RangeSort.Table.Basic
import RangeSort.Text.Width

/-! Tables as text with a frame, for logs. -/

namespace RangeSort

namespace Preview

def octetChars (b : UInt8) : List Char :=
  [Nat.digitChar (b.toNat / 16), Nat.digitChar (b.toNat % 16)]

def atom : Value → String
  | .boolean b => String.ofList (boolChars b)
  | .int n => String.ofList (integerChars n.toInt)
  | .long n => String.ofList (integerChars n.toInt)
  | .float bits => String.ofList (FloatLayout.preview32.chars binary32 bits.toNat)
  | .double bits => String.ofList (FloatLayout.preview64.chars binary64 bits.toNat)
  | .text s => s
  | .bytes b => String.ofList (b.flatMap octetChars)
  | _ => ""

mutual

/-- A cell. Null is empty; tuples name their fields. -/
def cell : ColumnType → Value → String
  | .struct fields, .tuple items => "\x7b" ++ ", ".intercalate (members fields items) ++ "\x7d"
  | .list item, .bag rows => "[" ++ ", ".intercalate (elements item rows) ++ "]"
  | _, v => atom v
termination_by structural t => t

def members : List ColumnField → Row → List String
  | [], _ => []
  | f :: fs, items => member f (items.headD .null) :: members fs items.tail
termination_by structural fs => fs

def member : ColumnField → Value → String
  | .mk name type _, v => name ++ ": " ++ cell type v
termination_by structural f => f

def elements : ColumnField → List Row → List String
  | .mk _ type _, rows => rows.map fun r => cell type (.tuple r)
termination_by structural f => f

end

/-- A cell spans as many lines as its text has. -/
def linesOf (s : String) : List String :=
  (s.toList.splitOn '\n').map String.ofList

def padded (width : Nat) (s : String) : String :=
  s ++ String.ofList (List.replicate (width - textWidth s) ' ')

def frame (widths : List Nat) : String :=
  "+" ++ "+".intercalate (widths.map fun w => String.ofList (List.replicate (w + 2) '-')) ++ "+"

def lineOf (widths : List Nat) (cells : List String) : String :=
  "| " ++ " | ".intercalate (widths.zipWith padded cells) ++ " |"

def rowLines (widths : List Nat) (cells : List String) : List String :=
  let split := cells.map linesOf
  let height := (split.map List.length).foldl max 1
  (List.range height).map fun i => lineOf widths (split.map fun ls => ls.getD i "")

def rowCells : List ColumnField → Row → List String
  | [], _ => []
  | f :: fs, r => cell f.type (r.headD .null) :: rowCells fs r.tail

end Preview

/-- The frame, the names, and a line per row. -/
def preview (fields : List ColumnField) (rows : List Row) : String :=
  let names := fields.map ColumnField.name
  let cells := rows.map fun r => Preview.rowCells fields r
  let widths := names.zipIdx.map fun (_, i) =>
    ((names :: cells).flatMap fun r => (Preview.linesOf (r.getD i "")).map textWidth).foldl max 1
  let rule := Preview.frame widths
  "\n".intercalate
    (rule :: (Preview.rowLines widths names ++ rule :: (cells.flatMap (Preview.rowLines widths) ++ [rule])))

end RangeSort
