import RangeSort.Host.Folding
import RangeSort.Host.Punycode
import RangeSort.Text.Joining

/-! The labels of a host name, which stand between its dots. -/

namespace RangeSort.Host

/-- The characters of ASCII that no host name may hold. -/
def isForbiddenAscii (c : Char) : Bool :=
  c.toNat ≤ 0x20 || c.toNat == 0x7F || "#%/:<>?@[\\]^|".toList.contains c

/-- A folded label in its own characters. Labels that open with `xn--` are written in
ASCII for one that has other characters too and that folding does not change. -/
def readLabel? (label : List Char) : Option (List Char) :=
  match label with
  | 'x' :: 'n' :: '-' :: '-' :: code =>
    if code.isEmpty || code.getLast? == some '-' || 2000 < code.length ||
        code.any fun c => 0x80 ≤ c.toNat then none
    else (Punycode.decode? code).filter isFolded
  | _ => some label

def joinsForward (c : Char) : Bool := leftJoining.contains c || dualJoining.contains c

def joinsBack (c : Char) : Bool := rightJoining.contains c || dualJoining.contains c

/-- Whether a joiner or its contrary, `c`, has an effect between what is before it, the
nearest character first, and what is after it: behind a sign that silences a vowel, or else
where it parts letters that join. -/
def isJoinerUsed (before : List Char) (c : Char) (after : List Char) : Bool :=
  let joins (side : List Char) (p : Char → Bool) := (side.dropWhile isTransparent).head?.any p
  before.head?.any (combiningClass · == 9) ||
    (!before.isEmpty && c.toNat == 0x200C && joins before joinsForward && joins after joinsBack)

def areJoinersUsed : (before : List Char) → List Char → Bool
  | _, [] => true
  | before, c :: after =>
    ((c.toNat != 0x200C && c.toNat != 0x200D) || isJoinerUsed before c after) &&
      areJoinersUsed (c :: before) after

def isValidLabel (label : List Char) : Bool :=
  !label.any isForbiddenAscii && !label.head?.any isMark && areJoinersUsed [] label &&
    (label.length ≤ 1000 || label.all fun c => c.toNat < 0x80)

end RangeSort.Host
