/-! The kinds of values that fields are declared with. -/

namespace RangeSort

inductive Kind where
  | unknown
  | boolean
  | int
  | long
  | float
  | double
  | bytes
  | text
  | map
  | tuple
  | bag
  deriving DecidableEq, Repr, Inhabited

namespace Kind

/-- Values of different kinds are ordered by rank. -/
def rank : Kind → Nat
  | .unknown => 0
  | .boolean => 5
  | .int => 10
  | .long => 15
  | .float => 20
  | .double => 25
  | .bytes => 50
  | .text => 55
  | .map => 100
  | .tuple => 110
  | .bag => 120

def name : Kind → String
  | .unknown => "unknown"
  | .boolean => "boolean"
  | .int => "int"
  | .long => "long"
  | .float => "float"
  | .double => "double"
  | .bytes => "bytearray"
  | .text => "chararray"
  | .map => "map"
  | .tuple => "tuple"
  | .bag => "bag"

/-- All kinds by ascending rank. -/
def all : List Kind :=
  [.unknown, .boolean, .int, .long, .float, .double, .bytes, .text, .map, .tuple, .bag]

/-- Kinds whose fields carry a nested schema. -/
def isNested : Kind → Bool
  | .tuple | .bag => true
  | _ => false

/-- Kinds whose values hold others and are read as structured text. -/
def isComposite : Kind → Bool
  | .map | .tuple | .bag => true
  | _ => false

def isNumeric : Kind → Bool
  | .int | .long | .float | .double => true
  | _ => false

def isAtomic : Kind → Bool
  | .unknown | .map | .tuple | .bag => false
  | _ => true

end Kind

end RangeSort
