import RangeSort.Binary.Layout
import RangeSort.Value.Basic

/-! The text of a value. Inside a composite, longs and floats carry a suffix and text
is quoted, so that the kind can be told from the text. -/

namespace RangeSort

namespace Mark

def quote : Char := Char.ofNat 0x27

def escape : Char := Char.ofNat 0x5C

/-- The characters that end an unquoted token. -/
def isDelimiter (c : Char) : Bool :=
  c == ',' || c == ')' || c == '}' || c == ']' || c == '#'

end Mark

def boolChars (b : Bool) : List Char :=
  if b then "true".toList else "false".toList

def floatChars (bits : UInt32) : List Char :=
  FloatLayout.value.chars binary32 bits.toNat

def doubleChars (bits : UInt64) : List Char :=
  FloatLayout.value.chars binary64 bits.toNat

def quotedBody : List Char → List Char
  | [] => []
  | c :: s =>
    if c = Mark.quote ∨ c = Mark.escape then Mark.escape :: c :: quotedBody s
    else c :: quotedBody s

def quotedChars (s : List Char) : List Char :=
  Mark.quote :: (quotedBody s ++ [Mark.quote])

/-- Keys are quoted only where the bare key would be read differently. -/
def keyChars (key : String) : List Char :=
  if key.toList.head? == some Mark.quote || key.toList.any Mark.isDelimiter then
    quotedChars key.toList
  else key.toList

/-- The texts of elements with commas between them. -/
def commaJoined : List (List Char) → List Char
  | [] => []
  | [s] => s
  | s :: rest => s ++ ',' :: commaJoined rest

def isLoneNull : List Value → Bool
  | [.null] => true
  | _ => false

/-- A tuple of one null is written in words, because the empty text between the
parentheses already stands for the empty tuple. -/
def tupleChars (loneNull : Bool) (items : List (List Char)) : List Char :=
  if loneNull then "(null)".toList else '(' :: (commaJoined items ++ [')'])

def bagChars (rows : List (List Char)) : List Char :=
  '{' :: (commaJoined rows ++ ['}'])

def mapChars (entries : List (List Char)) : List Char :=
  '[' :: (commaJoined entries ++ [']'])

mutual

def Value.chars (nested : Bool) : Value → List Char
  | .null => []
  | .boolean b => boolChars b
  | .int n => integerChars n.toInt
  | .long n => if nested then integerChars n.toInt ++ ['L'] else integerChars n.toInt
  | .float bits => if nested then floatChars bits ++ ['F'] else floatChars bits
  | .double bits => doubleChars bits
  | .bytes b => if nested then quotedChars (Utf8.decode b) else Utf8.decode b
  | .text s => if nested then quotedChars s.toList else s.toList
  | .map entries => mapChars (entryTexts entries)
  | .tuple items => tupleChars (isLoneNull items) (itemTexts items)
  | .bag rows => bagChars (rowTexts rows)
termination_by structural v => v

def itemTexts : List Value → List (List Char)
  | [] => []
  | v :: vs => v.chars true :: itemTexts vs
termination_by structural vs => vs

def rowTexts : List (List Value) → List (List Char)
  | [] => []
  | r :: rs => tupleChars (isLoneNull r) (itemTexts r) :: rowTexts rs
termination_by structural rs => rs

def entryTexts : List (String × Value) → List (List Char)
  | [] => []
  | e :: es => entryText e :: entryTexts es
termination_by structural es => es

def entryText : String × Value → List Char
  | (k, v) => keyChars k ++ '#' :: v.chars true
termination_by structural e => e

end

def Row.chars (row : Row) : List Char :=
  tupleChars (isLoneNull row) (itemTexts row)

def Row.render (row : Row) : String :=
  String.ofList row.chars

def Value.render (v : Value) : String :=
  String.ofList (v.chars false)

/-- The text of a value as octets. -/
def Value.octets (v : Value) : Octets :=
  Utf8.encode (v.chars false)

/-- The content of a value as octets: bytes stand for themselves and everything else
for its text. -/
def Value.content : Value → Octets
  | .null => []
  | .boolean b => Utf8.encode (boolChars b)
  | .int n => Utf8.encode (integerChars n.toInt)
  | .long n => Utf8.encode (integerChars n.toInt)
  | .float bits => Utf8.encode (floatChars bits)
  | .double bits => Utf8.encode (doubleChars bits)
  | .bytes b => b
  | .text s => Utf8.encode s.toList
  | .map entries => Utf8.encode (mapChars (entryTexts entries))
  | .tuple items => Utf8.encode (Row.chars items)
  | .bag rows => Utf8.encode (bagChars (rowTexts rows))

end RangeSort
