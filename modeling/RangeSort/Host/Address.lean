import RangeSort.Power
import RangeSort.Text.CharTable

/-! Hosts that are numbers: four octets with dots, or eight pairs of octets with colons. -/

namespace RangeSort.Host

/-- A number of a dotted address in base 8, 10 or 16 by its first characters. -/
def addressNumber (s : List Char) : Option Nat :=
  let read (base : Nat) (digits : List Char) : Option Nat :=
    digits.foldlM (fun n c => (hexValue? c).bind fun d => if d < base then some (base * n + d) else none) 0
  match s with
  | [] => none
  | '0' :: 'x' :: digits => read 16 digits
  | '0' :: 'X' :: digits => read 16 digits
  | '0' :: digits => if digits.isEmpty then some 0 else read 8 digits
  | digits => read 10 digits

/-- The parts of a host between dots, without the empty one after a closing dot. -/
def dottedParts (host : List Char) : List (List Char) :=
  let parts := host.splitOn '.'
  if 1 < parts.length ∧ parts.getLast? = some [] then parts.dropLast else parts

def isHexPrefixed : List Char → Bool
  | '0' :: 'x' :: _ => true
  | '0' :: 'X' :: _ => true
  | _ => false

/-- Whether a host must be a dotted address because its last label is a number. -/
def endsInNumber (host : List Char) : Bool :=
  match (dottedParts host).getLast? with
  | some l => !l.isEmpty && (l.all Char.isDigit || isHexPrefixed l && (addressNumber l).isSome)
  | none => false

def isDotted (host : List Char) : Bool :=
  let parts := dottedParts host
  match parts.mapM addressNumber with
  | some numbers =>
    numbers.length ≤ 4 && numbers.dropLast.all (· ≤ 255) &&
      (numbers.getLast?.getD 0) < 256 ^ (5 - numbers.length)
  | none => false

/-- How many 16-bit pieces a run of groups stands for. A dotted address may end it. -/
def pieces (allowDotted : Bool) (s : List Char) : Option Nat :=
  if s.isEmpty then some 0
  else
    let groups := s.splitOn ':'
    let isGroup (g : List Char) : Bool := !g.isEmpty && g.length ≤ 4 && g.all fun c => (hexValue? c).isSome
    let isDecimal (g : List Char) : Bool :=
      let octets := g.splitOn '.'
      octets.length == 4 && octets.all fun o => !o.isEmpty && o.all Char.isDigit &&
        (o.length == 1 || o.head? != some '0') && o.length ≤ 3 && (addressNumber o).any (· ≤ 255)
    if groups.all isGroup then some groups.length
    else if allowDotted && groups.dropLast.all isGroup && isDecimal (groups.getLast?.getD []) then
      some (groups.length + 1)
    else none

/-- The two sides of the first doubled colon. -/
def splitDoubleColon : List Char → List Char → Option (List Char × List Char)
  | _, [] => none
  | before, ':' :: ':' :: after => some (before.reverse, after)
  | before, c :: after => splitDoubleColon (c :: before) after

/-- An address of eight pieces, of which a doubled colon may leave out a run. -/
def isBracketed (s : List Char) : Bool :=
  match splitDoubleColon [] s with
  | none => pieces true s == some 8
  | some (before, after) =>
    match pieces false before, pieces true after with
    | some m, some n => m + n ≤ 7
    | _, _ => false

end RangeSort.Host
