import RangeSort.Bisection
import RangeSort.Text.Blank

/-! Tables of characters. A table lists spans of scalar values in ascending order; a span
may carry what its characters stand for. -/

namespace RangeSort

def hexValue? (c : Char) : Option Nat :=
  if c.isDigit then some (c.toNat - '0'.toNat)
  else if 'a' ≤ c ∧ c ≤ 'f' then some (c.toNat - 'a'.toNat + 10)
  else if 'A' ≤ c ∧ c ≤ 'F' then some (c.toNat - 'A'.toNat + 10)
  else none

def hexNumber (s : List Char) : Nat :=
  s.foldl (fun n c => 16 * n + (hexValue? c).getD 0) 0

structure Span where
  low : Nat
  high : Nat
  values : List Nat
  deriving DecidableEq, Repr

/-- Reads `41`, `41-5A` or either followed by a colon and values between dots. -/
def Span.ofWord (word : List Char) : Span :=
  let ends := (word.takeWhile (· != ':')).splitOn '-'
  let values := (word.dropWhile (· != ':')).tail
  { low := hexNumber (ends.headD [])
    high := hexNumber (ends.getLastD [])
    values := if values.isEmpty then [] else (values.splitOn '.').map hexNumber }

abbrev CharTable := Array Span

namespace CharTable

/-- Reads the words of a text in ascending order. -/
def ofText (s : String) : CharTable :=
  (((s.toList.splitOnP isBlank).filter fun w => !w.isEmpty).map Span.ofWord).toArray

def span? (t : CharTable) (c : Char) : Option Span :=
  let place := firstFailure (fun i => t[i]?.any fun s => s.high < c.toNat) 0 t.size
  t[place]?.filter fun s => s.low ≤ c.toNat

def contains (t : CharTable) (c : Char) : Bool :=
  (t.span? c).isSome

def values? (t : CharTable) (c : Char) : Option (List Nat) :=
  (t.span? c).map Span.values

/-- What a character stands for. In a span with one value, that is what the first
character stands for, and the others follow. -/
def image? (t : CharTable) (c : Char) : Option (List Char) :=
  (t.span? c).map fun s => match s.values with
    | [value] => [Char.ofNat (value + (c.toNat - s.low))]
    | values => values.map Char.ofNat

end CharTable

end RangeSort
