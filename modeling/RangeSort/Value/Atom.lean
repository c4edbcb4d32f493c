import RangeSort.Binary.Rounding
import RangeSort.Value.Basic

/-! The value of an unquoted token. Keywords, integers and numerals are recognised and
everything else is text. -/

namespace RangeSort

namespace Atom

def withoutSuffix (upper lower : Char) (s : List Char) : Option (List Char) :=
  match s.getLast? with
  | some c => if c = upper ∨ c = lower then some s.dropLast else none
  | none => none

def boolean? (s : List Char) : Option Value :=
  if spells "true" s then some (.boolean true)
  else if spells "false" s then some (.boolean false)
  else none

def int? (s : List Char) : Option Value :=
  (readInteger 31 s).toOption.map fun n => .int (Int32.ofInt n)

def long? (s : List Char) : Option Value :=
  (readInteger 63 s).toOption.map fun n => .long (Int64.ofInt n)

/-- A magnitude in words. Other spellings of these values are text. -/
def special? (f : BinaryFormat) (s : List Char) : Option Nat :=
  if s = "NaN".toList then some f.quietNan
  else if s = "Infinity".toList then some f.infinity
  else if s = "-Infinity".toList then some (f.withSign true f.infinity)
  else none

/-- A numeral with at least one digit, which keeps words such as `inf` text. -/
def numeral? (f : BinaryFormat) (s : List Char) : Option Nat :=
  if s.any Char.isDigit then f.read s else none

def float? (s : List Char) : Option Value :=
  (withoutSuffix 'F' 'f' s).bind fun r =>
    ((special? binary32 r).or (numeral? binary32 r)).map fun bits => .float (UInt32.ofNat bits)

/-- Without a point or an exponent a numeral is no double. -/
def double? (s : List Char) : Option Value :=
  let numeral := if s.any (fun c => c == '.' || c == 'e' || c == 'E') then numeral? binary64 s
    else none
  ((special? binary64 s).or numeral).map fun bits => .double (UInt64.ofNat bits)

/-- The first reading that applies. -/
def read (s : List Char) : Value :=
  if s.isEmpty then .null
  else
    let suffixed := (withoutSuffix 'L' 'l' s).bind long?
    let reading := boolean? s |>.or suffixed |>.or (int? s) |>.or (long? s) |>.or (float? s)
      |>.or (double? s)
    reading.getD (.text (String.ofList s))

end Atom

end RangeSort
