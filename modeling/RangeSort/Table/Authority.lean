import RangeSort.Decimal.Integer
import RangeSort.Host.Basic

/-! The authority of a URL, which stands between two slashes and the path: user, host and
port, as far as they decide whether the URL is well formed. -/

namespace RangeSort.Authority

/-- Whether a character ends the authority. In special schemes the two slashes are alike. -/
def isEnd (special : Bool) (c : Char) : Bool :=
  c == '/' || c == '?' || c == '#' || (special && c == '\\')

/-- What stands before the last at sign, if there is one, and what follows it. -/
def splitUser (special : Bool) (s : List Char) : Option (List Char) × List Char :=
  let inside := s.takeWhile fun c => !isEnd special c
  let host := (inside.reverse.takeWhile (· != '@')).reverse
  if inside.contains '@' then
    let user := inside.take (inside.length - host.length - 1)
    (some user, s.drop (user.length + 1))
  else (none, s)

/-- A host, up to a colon that is not in brackets, and what follows it. -/
def splitHost (special : Bool) : (inBrackets : Bool) → List Char → List Char × List Char
  | _, [] => ([], [])
  | inBrackets, c :: s =>
    if isEnd special c || (c == ':' && !inBrackets) then ([], c :: s)
    else
      let (host, rest) := splitHost special (c == '[' || (inBrackets && c != ']')) s
      (c :: host, rest)

/-- What follows a port, if it is a 16-bit number or empty. Either slash may end it. -/
def afterPort? (s : List Char) : Option (List Char) :=
  let port := s.takeWhile Char.isDigit
  let rest := s.drop port.length
  if (readMagnitude 65535 .above 0 port matches .ok _) && rest.head?.all (isEnd true) then some rest
  else none

/-- Whether the authority at the head of a text names a host, and the text after it. Without
a host there is no port and no user but an empty one, which must end the text. -/
def read? (special : Bool) (s : List Char) : Option (Bool × List Char) :=
  let (user, afterUser) := splitUser special s
  let (host, rest) := splitHost special false afterUser
  if user == some [] && afterUser.head?.any (isEnd special) then none
  else if host.isEmpty then
    let isNamed := user.any fun u => !u.isEmpty && u != [':']
    if special || isNamed || rest.head? == some ':' then none else some (false, rest)
  else if if special then (Host.ofName? host).isNone else !Host.isOpaque host then none
  else match rest with
    | ':' :: port => (afterPort? port).map fun rest => (true, rest)
    | _ => some (true, rest)

end RangeSort.Authority
