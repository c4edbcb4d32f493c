import RangeSort.Power

/-! Whole numbers in decimal, read against a range. Reading goes from left to right
and stops at the first character that is no digit or that leaves the range. -/

namespace RangeSort

inductive IntegerFault where
  | empty
  | digit
  | above
  | below
  deriving DecidableEq, Repr

def IntegerFault.message : IntegerFault → String
  | .empty => "cannot parse integer from empty string"
  | .digit => "invalid digit found in string"
  | .above => "number too large to fit in target type"
  | .below => "number too small to fit in target type"

def digitValue (c : Char) : Nat :=
  c.toNat - '0'.toNat

/-- The magnitude of a run of digits, at most `limit`. -/
def readMagnitude (limit : Nat) (beyond : IntegerFault) : Nat → List Char → Except IntegerFault Nat
  | n, [] => .ok n
  | n, c :: s =>
    if c.isDigit then
      let m := 10 * n + digitValue c
      if m ≤ limit then readMagnitude limit beyond m s else .error beyond
    else .error .digit

/-- Reads an integer between `-2 ^ bits` and `2 ^ bits - 1`. -/
def readInteger (bits : Nat) (s : List Char) : Except IntegerFault Int :=
  match s with
  | [] => .error .empty
  | c :: rest =>
    if c = '+' || c = '-' then
      if rest.isEmpty then .error .digit
      else if c = '-' then
        (readMagnitude (2 ^ bits) .below 0 rest).map fun n : Nat => -(n : Int)
      else (readMagnitude (2 ^ bits - 1) .above 0 rest).map Int.ofNat
    else (readMagnitude (2 ^ bits - 1) .above 0 s).map Int.ofNat

def natChars (n : Nat) : List Char :=
  Nat.toDigits 10 n

def integerChars (n : Int) : List Char :=
  if n < 0 then '-' :: natChars n.natAbs else natChars n.natAbs

end RangeSort
