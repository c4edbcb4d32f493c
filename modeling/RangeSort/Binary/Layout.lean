import RangeSort.Binary.Shortest

/-! Texts of floating-point numbers. A layout says where positional writing ends and
how the special values are spelled; the digits are always the shortest ones. -/

namespace RangeSort

structure FloatLayout where
  /-- Whether a number whose leading digit has this exponent is written without one. -/
  positional : Int → Bool
  /-- Whether a whole number keeps a point and a zero. -/
  keepPoint : Bool
  tie : Tie
  infinity : String

namespace FloatLayout

/-- Values: positional from `0.0001` to below `1e16`, never looking like an integer. -/
def value : FloatLayout where
  positional e := -4 ≤ e && e ≤ 15
  keepPoint := true
  tie := .up
  infinity := "Infinity"

/-- Messages: every digit is written out. -/
def message : FloatLayout where
  positional _ := true
  keepPoint := false
  tie := .up
  infinity := "inf"

/-- Table previews, for the 32-bit and the 64-bit format. -/
def preview32 : FloatLayout where
  positional e := -6 ≤ e && e ≤ 12
  keepPoint := true
  tie := .even
  infinity := "inf"

def preview64 : FloatLayout where
  positional e := -5 ≤ e && e ≤ 15
  keepPoint := true
  tie := .even
  infinity := "inf"

/-- Digits without trailing zeros. -/
def significant (digits : List Char) : List Char :=
  (digits.reverse.dropWhile (· == '0')).reverse

def positionalChars (keepPoint : Bool) (digits : List Char) (leading : Int) : List Char :=
  match leading with
  | .negSucc e => '0' :: '.' :: (List.replicate e '0' ++ digits)
  | .ofNat e =>
    let whole := digits.take (e + 1)
    let fraction := digits.drop (e + 1)
    let padding := List.replicate (e + 1 - digits.length) '0'
    let tail := if fraction.isEmpty then (if keepPoint then ['.', '0'] else [])
      else '.' :: fraction
    whole ++ padding ++ tail

def exponentChars (digits : List Char) (leading : Int) : List Char :=
  let mantissa := match digits with
    | d :: e :: r => d :: '.' :: e :: r
    | ds => ds
  mantissa ++ 'e' :: integerChars leading

def magnitudeChars (l : FloatLayout) (f : BinaryFormat) (magnitude : Nat) : List Char :=
  if magnitude = 0 then (if l.keepPoint then ['0', '.', '0'] else ['0'])
  else
    let d := f.shortest l.tie magnitude
    let digits := natChars d.coefficient
    let leading := d.exponent + digits.length - 1
    if l.positional leading then positionalChars l.keepPoint (significant digits) leading
    else exponentChars (significant digits) leading

def chars (l : FloatLayout) (f : BinaryFormat) (bits : Nat) : List Char :=
  if f.isNan bits then "NaN".toList
  else
    let unsigned := if f.isInfinite bits then l.infinity.toList
      else l.magnitudeChars f (f.magnitude bits)
    if f.isNegative bits then '-' :: unsigned else unsigned

end FloatLayout

end RangeSort
