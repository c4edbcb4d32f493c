import RangeSort.Power

/-! Labels of host names in ASCII. The characters that ASCII has come first. After the last
hyphen there are numbers in digits of base 36, the lowest first, which say what other
characters to insert and where. -/

namespace RangeSort.Punycode

def digit? (c : Char) : Option Nat :=
  if c.isDigit then some (c.toNat - '0'.toNat + 26)
  else if c.isLower then some (c.toNat - 'a'.toNat)
  else none

/-- The text so far, and the number that is being read. -/
structure Reading where
  text : List Char
  /-- The last character that was inserted. -/
  scalar : Nat
  /-- The place after it. -/
  start : Nat
  bias : Nat
  /-- The place after it plus the digits so far. -/
  sum : Nat
  /-- How many digits the number has so far. -/
  digits : Nat
  /-- What the next digit counts. -/
  weight : Nat

/-- A digit below this one ends a number. -/
def threshold (bias digits : Nat) : Nat :=
  min 26 (max 1 (36 * (digits + 1) - bias))

def scaledBias (delta shift : Nat) : Nat :=
  if 455 < delta then scaledBias (delta / 35) (shift + 36) else shift + 36 * delta / (delta + 38)
termination_by delta

/-- The bias after a number `delta`, for a text that has `size` characters by now. -/
def nextBias (delta size : Nat) (isFirst : Bool) : Nat :=
  let delta := if isFirst then delta / 700 else delta / 2
  scaledBias (delta + delta / size) 0

namespace Reading

/-- The number is complete: it counts places of the text, and a character each time the text
is passed. -/
def insert (r : Reading) (sum : Nat) : Option Reading :=
  let size := r.text.length + 1
  let scalar := r.scalar + sum / size
  let place := sum % size
  if scalar.isValidChar then
    some { text := r.text.insertIdx place (Char.ofNat scalar)
           scalar
           start := place + 1
           bias := nextBias (sum - r.start) size (r.start == 0)
           sum := place + 1
           digits := 0
           weight := 1 }
  else none

/-- Sums and weights are kept below `2 ^ 32`. -/
def push (r : Reading) (c : Char) : Option Reading := do
  let digit ← digit? c
  let sum := r.sum + digit * r.weight
  let bound := threshold r.bias r.digits
  let weight := r.weight * (36 - bound)
  if 2 ^ 32 ≤ sum then none
  else if digit < bound then r.insert sum
  else if 2 ^ 32 ≤ weight then none
  else some { r with sum, weight, digits := r.digits + 1 }

end Reading

/-- Inserts characters into `base`, by numbers of which the last one must be complete. -/
def inserted (base numbers : List Char) : Option (List Char) :=
  match numbers.foldlM Reading.push ⟨base, 0x80, 0, 72, 0, 0, 1⟩ with
  | some r => if r.digits = 0 then some r.text else none
  | none => none

/-- Nothing but numbers may stand without a hyphen, and something before one. -/
def decode? (s : List Char) : Option (List Char) :=
  let numbers := (s.reverse.takeWhile (· != '-')).reverse
  match s.reverse.dropWhile (· != '-') with
  | [] => inserted [] s
  | [_] => none
  | _ :: base => inserted base.reverse numbers

end RangeSort.Punycode
