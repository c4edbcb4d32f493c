/-! Blank characters and case folding of keywords. -/

namespace RangeSort

/-- The characters with the property White_Space. -/
def isBlank (c : Char) : Bool :=
  let n := c.toNat
  (9 ≤ n && n ≤ 13) || n == 0x20 || n == 0x85 || n == 0xA0 || n == 0x1680 ||
    (0x2000 ≤ n && n ≤ 0x200A) || n == 0x2028 || n == 0x2029 || n == 0x202F ||
    n == 0x205F || n == 0x3000

def trimBlank (s : List Char) : List Char :=
  ((s.dropWhile isBlank).reverse.dropWhile isBlank).reverse

/-- Whether `s` spells the lower-case word `w`, without regard to the case of ASCII
letters. -/
def spells (w : String) (s : List Char) : Bool :=
  s.map Char.toLower == w.toList

end RangeSort
