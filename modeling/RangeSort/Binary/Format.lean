import RangeSort.Power

/-! Binary floating-point formats by their bit patterns. A pattern is a sign bit above
a magnitude; magnitudes count upwards through the subnormal and normal numbers, then
infinity, then the patterns that are no number. -/

namespace RangeSort

structure BinaryFormat where
  fractionBits : Nat
  exponentBits : Nat

def binary32 : BinaryFormat := ⟨23, 8⟩

def binary64 : BinaryFormat := ⟨52, 11⟩

namespace BinaryFormat

variable (f : BinaryFormat)

def hidden : Nat := 2 ^ f.fractionBits

def signBit : Nat := 2 ^ (f.fractionBits + f.exponentBits)

/-- The magnitude of infinity. -/
def infinity : Nat := (2 ^ f.exponentBits - 1) * f.hidden

def quietNan : Nat := f.infinity + f.hidden / 2

def isNegative (bits : Nat) : Bool := f.signBit ≤ bits

def magnitude (bits : Nat) : Nat := bits % f.signBit

def isNan (bits : Nat) : Bool := f.infinity < f.magnitude bits

def isInfinite (bits : Nat) : Bool := f.magnitude bits == f.infinity

def withSign (negative : Bool) (magnitude : Nat) : Nat :=
  if negative then f.signBit + magnitude else magnitude

/-- The least subnormal number is `2 ^ -scale`. -/
def scale : Nat := 2 ^ (f.exponentBits - 1) + f.fractionBits - 2

/-- The value of a magnitude as a multiple of the least subnormal number. The formula
goes on past the largest finite number, where infinity stands for the next power of
two. -/
def units (magnitude : Nat) : Nat :=
  let exponent := magnitude / f.hidden
  let fraction := magnitude % f.hidden
  if exponent = 0 then fraction else (f.hidden + fraction) * 2 ^ (exponent - 1)

/-- Position in the total order of patterns: negative patterns in reverse below the
positive ones, so that the two zeros differ and patterns that are no number have a
place. -/
def orderKey (bits : Nat) : Int :=
  if f.isNegative bits then -(f.magnitude bits : Int) - 1 else f.magnitude bits

def compare (a b : Nat) : Ordering :=
  Ord.compare (f.orderKey a) (f.orderKey b)

end BinaryFormat

end RangeSort
