import RangeSort.Binary.Rounding

/-! Shortest decimals. Among the decimals that round to a magnitude, those with the
fewest digits are wanted, and of them the one nearest to it. -/

namespace RangeSort

/-- The number `coefficient * 10 ^ exponent`. -/
structure Decimal where
  coefficient : Nat
  exponent : Int
  deriving DecidableEq, Repr

/-- What to do when two shortest decimals are equally near. -/
inductive Tie where
  | up
  | even
  deriving DecidableEq, Repr

namespace BinaryFormat

variable (f : BinaryFormat)

/-- `units / 2 ^ scale` in units of `10 ^ exponent`, as a fraction. -/
def gridFraction (units : Nat) (exponent : Int) : Nat × Nat :=
  match exponent with
  | .ofNat e => (units, 2 ^ f.scale * 10 ^ e)
  | .negSucc e => (units * 10 ^ (e + 1), 2 ^ f.scale)

def decimalRoundsTo (magnitude coefficient : Nat) (exponent : Int) : Bool :=
  match exponent with
  | .ofNat e => f.roundsTo magnitude (coefficient * 10 ^ e) 1
  | .negSucc e => f.roundsTo magnitude coefficient (10 ^ (e + 1))

/-- The two neighbours on the grid of multiples of `10 ^ exponent`, nearer first. -/
def neighbours (tie : Tie) (magnitude : Nat) (exponent : Int) : List Nat :=
  let (num, den) := f.gridFraction (f.units magnitude) exponent
  let below := num / den
  let twice := 2 * (num % den)
  let upFirst := if twice < den then false
    else if den < twice then true
    else tie == .up || below % 2 == 1
  if upFirst then [below + 1, below] else [below, below + 1]

def onGrid (tie : Tie) (magnitude : Nat) (exponent : Int) : Option Decimal :=
  ((f.neighbours tie magnitude exponent).find? fun c =>
    f.decimalRoundsTo magnitude c exponent).map fun c => ⟨c, exponent⟩

/-- The exponent of the leading digit. Ten cubed is more than two to the ninth, so the
power of ten lifts the least subnormal number above one. -/
def leadingExponent (magnitude : Nat) : Int :=
  let lift := f.scale / 3
  let lifted := f.units magnitude * 10 ^ lift / 2 ^ f.scale
  ((natChars lifted).length : Int) - 1 - lift

/-- Grids are tried from one digit on. The last resort is the exact value, which has a
finite decimal expansion. -/
def shortest (tie : Tie) (magnitude : Nat) : Decimal :=
  let leading := f.leadingExponent magnitude
  let grids := (List.range (f.fractionBits / 3 + 2)).map fun n : Nat => leading - n
  (grids.findSome? (f.onGrid tie magnitude)).getD
    ⟨f.units magnitude * 5 ^ f.scale, -(f.scale : Int)⟩

end BinaryFormat

end RangeSort
