import RangeSort.Host.Address
import RangeSort.Host.Direction
import RangeSort.Host.Label
import RangeSort.Text.Percent

/-! Hosts of URLs: names, dotted addresses, and addresses in brackets. -/

namespace RangeSort.Host

/-- The labels of a host name in the form in which they are compared. -/
def labels? (host : List Char) : Option (List (List Char)) := do
  let folded ← fold? (Utf8.decode (percentDecodeText host))
  let labels ← (folded.splitOn '.').mapM readLabel?
  if labels.all isValidLabel && areDirected labels then some labels else none

def isBracketAddress : List Char → Bool
  | '[' :: rest => rest.getLast? == some ']' && isBracketed rest.dropLast
  | _ => false

/-- A host of the schemes that look it up, in the form in which it is compared. -/
def ofName? (host : List Char) : Option (List Char) :=
  if host.head? == some '[' then
    if isBracketAddress host then some host else none
  else do
    let name := ['.'].intercalate (← labels? host)
    if name.isEmpty || (endsInNumber name && !isDotted name) then none else some name

def isForbidden (c : Char) : Bool :=
  c.toNat == 0 || "\t\n\r #/:<>?@[\\]^|".toList.contains c

/-- Whether other schemes take a text for a host. -/
def isOpaque (host : List Char) : Bool :=
  if host.head? == some '[' then isBracketAddress host else !host.any isForbidden

end RangeSort.Host
