import RangeSort.Text.Marks
import RangeSort.Text.Unassigned

/-! Names between double quotes, with escapes for the characters that would not show. -/

namespace RangeSort

/-- Controls, blanks other than the space, format characters and private ones. -/
def formless : CharTable := .ofText "
  0-1F 7F-A0 AD 600-605 61C 6DD 70F 890-891 8E2 1680 180E 2000-200F 2028-202F 205F-2064
  2066-206F 3000 D800-F8FF FEFF FFF9-FFFB 110BD 110CD 13430-1343F 1BCA0-1BCA3 1D173-1D17A E0001
  E0020-E007F F0000-FFFFD 100000-10FFFD"

/-- Whether a character has a shape of its own. The two narrow marks of Katakana have. -/
def isPrintable (c : Char) : Bool :=
  if c.toNat < 0x7F then 0x20 ≤ c.toNat
  else c.toNat == 0xFF9E || c.toNat == 0xFF9F ||
    !(unassigned.contains c || formless.contains c || isAttached c || ignorable.contains c)

def escapeChar (c : Char) : List Char :=
  if c = '"' then ['\\', '"']
  else if c = '\\' then ['\\', '\\']
  else if c = '\t' then ['\\', 't']
  else if c = '\r' then ['\\', 'r']
  else if c = '\n' then ['\\', 'n']
  else if c.toNat = 0 then ['\\', '0']
  else if isPrintable c then [c]
  else ['\\', 'u', '\x7b'] ++ Nat.toDigits 16 c.toNat ++ ['\x7d']

def quotedText (s : String) : String :=
  String.ofList ('"' :: (s.toList.flatMap escapeChar ++ ['"']))

end RangeSort
