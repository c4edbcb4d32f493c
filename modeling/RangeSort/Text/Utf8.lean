/-! Characters as octets. Writing is exact. Reading accepts every octet string:
each longest run that starts a character but does not finish one becomes a single
replacement character. -/

namespace RangeSort

abbrev Octets := List UInt8

namespace Utf8

def encodeChar (c : Char) : Octets :=
  let n := c.toNat
  if n < 0x80 then [UInt8.ofNat n]
  else if n < 0x800 then
    [UInt8.ofNat (0xC0 + n / 0x40), UInt8.ofNat (0x80 + n % 0x40)]
  else if n < 0x10000 then
    [UInt8.ofNat (0xE0 + n / 0x1000), UInt8.ofNat (0x80 + n / 0x40 % 0x40),
      UInt8.ofNat (0x80 + n % 0x40)]
  else
    [UInt8.ofNat (0xF0 + n / 0x40000), UInt8.ofNat (0x80 + n / 0x1000 % 0x40),
      UInt8.ofNat (0x80 + n / 0x40 % 0x40), UInt8.ofNat (0x80 + n % 0x40)]

def encode (s : List Char) : Octets :=
  s.flatMap encodeChar

def replacement : Char := Char.ofNat 0xFFFD

/-- An unfinished character: how many octets it still needs, the range of the next
one, and the scalar value read so far. -/
structure Partial where
  missing : Nat
  low : Nat
  high : Nat
  scalar : Nat

/-- The character that an octet opens. The narrowed ranges of the second octet keep
out overlong forms, surrogates and values above the last scalar. -/
def openChar (b : Nat) : Option Partial :=
  if 0xC2 ≤ b ∧ b ≤ 0xDF then some ⟨1, 0x80, 0xBF, b - 0xC0⟩
  else if b = 0xE0 then some ⟨2, 0xA0, 0xBF, 0⟩
  else if b = 0xED then some ⟨2, 0x80, 0x9F, 0xD⟩
  else if 0xE1 ≤ b ∧ b ≤ 0xEF then some ⟨2, 0x80, 0xBF, b - 0xE0⟩
  else if b = 0xF0 then some ⟨3, 0x90, 0xBF, 0⟩
  else if b = 0xF4 then some ⟨3, 0x80, 0x8F, 4⟩
  else if 0xF1 ≤ b ∧ b ≤ 0xF3 then some ⟨3, 0x80, 0xBF, b - 0xF0⟩
  else none

/-- One octet at a character boundary. -/
def start (b : Nat) : List Char × Option Partial :=
  if b < 0x80 then ([Char.ofNat b], none)
  else match openChar b with
    | some p => ([], some p)
    | none => ([replacement], none)

def step (state : Option Partial) (b : Nat) : List Char × Option Partial :=
  match state with
  | none => start b
  | some p =>
    if p.low ≤ b ∧ b ≤ p.high then
      let scalar := p.scalar * 0x40 + b % 0x40
      if p.missing = 1 then ([Char.ofNat scalar], none)
      else ([], some ⟨p.missing - 1, 0x80, 0xBF, scalar⟩)
    else (replacement :: (start b).1, (start b).2)

def decodeFrom : Option Partial → Octets → List Char
  | none, [] => []
  | some _, [] => [replacement]
  | state, b :: rest => (step state b.toNat).1 ++ decodeFrom (step state b.toNat).2 rest

def decode (s : Octets) : List Char :=
  decodeFrom none s

def encodeText (s : String) : Octets :=
  encode s.toList

def decodeText (s : Octets) : String :=
  String.ofList (decode s)

end Utf8

end RangeSort
