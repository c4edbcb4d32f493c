import RangeSort.Text.CharTable
import RangeSort.Text.Utf8

/-! Octets written with a percent sign and two hexadecimal digits. -/

namespace RangeSort

/-- Replaces each percent sign with two hexadecimal digits by the octet they name. -/
def percentDecode : Octets → Octets
  | [] => []
  | [a] => [a]
  | [a, b] => [a, b]
  | a :: b :: c :: rest =>
    if a = '%'.toUInt8 then
      match hexValue? (Char.ofNat b.toNat), hexValue? (Char.ofNat c.toNat) with
      | some h, some l => UInt8.ofNat (16 * h + l) :: percentDecode rest
      | _, _ => a :: percentDecode (b :: c :: rest)
    else a :: percentDecode (b :: c :: rest)

def percentDecodeText (s : List Char) : Octets :=
  percentDecode (Utf8.encode s)

end RangeSort
