import RangeSort.Binary.Format
import RangeSort.Decimal.Numeral

/-! Rounding of exact fractions to a binary format, to nearest with ties to even. -/

namespace RangeSort.BinaryFormat

variable (f : BinaryFormat)

/-- Whether `num / den` lies in the interval of numbers that round to `magnitude`. The
interval ends half way to the neighbours and contains its ends when the magnitude is
even. -/
def roundsTo (magnitude num den : Nat) : Bool :=
  let doubled := 2 * num * 2 ^ f.scale
  let low := (f.units (magnitude - 1) + f.units magnitude) * den
  let high := (f.units magnitude + f.units (magnitude + 1)) * den
  let even := magnitude % 2 == 0
  (magnitude == 0 || (if even then low ≤ doubled else low < doubled)) &&
    (magnitude == f.infinity || (if even then doubled ≤ high else doubled < high))

/-- The largest magnitude below `2 ^ bits` above `base` whose value is at most the
bound, found bit by bit. -/
def lastBelow (den bound : Nat) : (bits base : Nat) → Nat
  | 0, base => base
  | bits + 1, base =>
    let next := base + 2 ^ bits
    lastBelow den bound bits (if f.units next * den ≤ bound then next else base)

/-- The magnitude nearest to `num / den`. -/
def nearest (num den : Nat) : Nat :=
  let bound := num * 2 ^ f.scale
  let below := f.lastBelow den bound (f.fractionBits + f.exponentBits) 0
  let middle := (f.units below + f.units (below + 1)) * den
  let above := if 2 * bound < middle then false
    else if middle < 2 * bound then true
    else below % 2 == 1
  min f.infinity (if above then below + 1 else below)

/-- The magnitude nearest to `coefficient * 10 ^ exponent`. Exponents out of every
format's reach are cut off before the power of ten is formed. -/
def nearestDecimal (coefficient : Nat) (exponent : Int) : Nat :=
  let reach : Int := 4 * 2 ^ f.exponentBits
  if coefficient = 0 then 0
  else if reach < exponent then f.infinity
  else if exponent < -(reach + coefficient.log2 : Int) then 0
  else match exponent with
    | .ofNat e => f.nearest (coefficient * 10 ^ e) 1
    | .negSucc e => f.nearest coefficient (10 ^ (e + 1))

def ofNumeral : Numeral → Nat
  | .nan negative => f.withSign negative f.quietNan
  | .infinite negative => f.withSign negative f.infinity
  | .finite negative coefficient exponent =>
    f.withSign negative (f.nearestDecimal coefficient exponent)

def read (s : List Char) : Option Nat :=
  (Numeral.read s).map f.ofNumeral

end RangeSort.BinaryFormat
