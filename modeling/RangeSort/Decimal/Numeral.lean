import RangeSort.Decimal.Integer
import RangeSort.Text.Blank

/-! Decimal numerals with an optional point and exponent, read exactly. -/

namespace RangeSort

inductive Numeral where
  | nan (negative : Bool)
  | infinite (negative : Bool)
  /-- The number `coefficient * 10 ^ exponent`, negated when `negative`. -/
  | finite (negative : Bool) (coefficient : Nat) (exponent : Int)
  deriving DecidableEq, Repr

namespace Numeral

def value (digits : List Char) : Nat :=
  digits.foldl (fun n c => 10 * n + digitValue c) 0

/-- The value of the digits of an exponent. Once it has reached 65536, further digits are
passed over, for the exponent is out of proportion then. -/
def exponentValue (digits : List Char) : Nat :=
  digits.foldl (fun n c => if n < 65536 then 10 * n + digitValue c else n) 0

/-- The part after the exponent mark: a sign and at least one digit. -/
def readExponent (s : List Char) : Option Int :=
  let (negative, digits) := match s with
    | '-' :: r => (true, r)
    | '+' :: r => (false, r)
    | r => (false, r)
  if digits.isEmpty || !digits.all Char.isDigit then none
  else some (if negative then -(exponentValue digits : Int) else exponentValue digits)

/-- Digits with at most one point among or around them, then an exponent. -/
def readFinite (negative : Bool) (s : List Char) : Option Numeral :=
  let whole := s.takeWhile Char.isDigit
  let afterWhole := s.dropWhile Char.isDigit
  let (fraction, rest) := match afterWhole with
    | '.' :: r => (r.takeWhile Char.isDigit, r.dropWhile Char.isDigit)
    | r => ([], r)
  if whole.isEmpty && fraction.isEmpty then none
  else
    let coefficient := value (whole ++ fraction)
    match rest with
    | [] => some (.finite negative coefficient (-(fraction.length : Int)))
    | c :: r =>
      if c = 'e' || c = 'E' then
        (readExponent r).map fun e => .finite negative coefficient (e - fraction.length)
      else none

def readUnsigned (negative : Bool) (s : List Char) : Option Numeral :=
  match readFinite negative s with
  | some n => some n
  | none =>
    if spells "inf" s || spells "infinity" s then some (.infinite negative)
    else if spells "nan" s then some (.nan negative)
    else none

def read (s : List Char) : Option Numeral :=
  match s with
  | '-' :: r => readUnsigned true r
  | '+' :: r => readUnsigned false r
  | r => readUnsigned false r

end Numeral

end RangeSort
