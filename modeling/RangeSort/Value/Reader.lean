import RangeSort.Value.Atom
import RangeSort.Value.Text

/-! Reading values from their text. A reader returns what it leaves of the input, or
stops with the octets in front of which it gave up; the position of an error is
measured from those. -/

namespace RangeSort

inductive Fault where
  | trailing
  | inTuple (octet : UInt8)
  | openTuple
  | notTuple
  | inBag (octet : UInt8)
  | openBag
  | noSeparator (key : String)
  | inMap (octet : UInt8)
  | openMap
  | openText
  deriving DecidableEq, Repr

/-- The character with the octet's number. -/
def octetText (b : UInt8) : String :=
  String.singleton (Char.ofNat b.toNat)

def Fault.message : Fault → String
  | .trailing => "unexpected trailing input"
  | .inTuple b => s!"unexpected '{octetText b}' in tuple"
  | .openTuple => "unterminated tuple"
  | .notTuple => "bag elements must be tuples"
  | .inBag b => s!"unexpected '{octetText b}' in bag"
  | .openBag => "unterminated bag"
  | .noSeparator key => s!"map entry '{key}' has no '#' separator"
  | .inMap b => s!"unexpected '{octetText b}' in map"
  | .openMap => "unterminated map"
  | .openText => "unterminated string"

inductive Stop where
  | fault (cause : Fault) (rest : Octets)
  | tooDeep
  deriving DecidableEq, Repr

/-- Readers never leave more than they were given, which bounds repetition. -/
structure Reader (α : Type) where
  run : Octets → Except Stop (α × Octets)
  shrinks : ∀ {s a r}, run s = .ok (a, r) → r.length ≤ s.length

namespace Reader

variable {α β : Type}

def fail (stop : Stop) : Reader α where
  run _ := .error stop
  shrinks h := nomatch h

def map (f : α → β) (p : Reader α) : Reader β where
  run s := match p.run s with
    | .error e => .error e
    | .ok (a, r) => .ok (f a, r)
  shrinks {s b r} h := by
    cases hp : p.run s with
    | error e => simp [hp] at h
    | ok ar =>
      simp only [hp, Except.ok.injEq, Prod.mk.injEq] at h
      exact h.2 ▸ p.shrinks hp

/-- Reads elements between commas up to the closing octet. -/
def runUntil (close : UInt8) (unexpected : UInt8 → Fault) (unclosed : Fault)
    (item : Reader α) (s : Octets) : Except Stop (List α × Octets) :=
  match _h : item.run s with
  | .error e => .error e
  | .ok (_, []) => .error (.fault unclosed [])
  | .ok (a, b :: r) =>
    if b = ','.toUInt8 then
      match runUntil close unexpected unclosed item r with
      | .error e => .error e
      | .ok (as, rest) => .ok (a :: as, rest)
    else if b = close then .ok ([a], r)
    else .error (.fault (unexpected b) (b :: r))
termination_by s.length
decreasing_by
  have := item.shrinks _h
  simp only [List.length_cons] at this
  omega

theorem runUntil_shrinks {close : UInt8} {unexpected : UInt8 → Fault} {unclosed : Fault}
    {item : Reader α} {s : Octets} {as : List α} {r : Octets}
    (h : runUntil close unexpected unclosed item s = .ok (as, r)) : r.length ≤ s.length := by
  fun_induction runUntil close unexpected unclosed item s generalizing as r with
  | case1 => cases h
  | case2 => cases h
  | case3 => cases h
  | case4 =>
    rename_i hr hi ih
    cases h
    have := item.shrinks hi
    have := ih hr
    simp only [List.length_cons] at *
    omega
  | case5 =>
    rename_i hi _
    cases h
    have := item.shrinks hi
    simp only [List.length_cons] at this
    omega
  | case6 => cases h

/-- The inside of a composite after its opening octet. -/
def elements (close : UInt8) (unexpected : UInt8 → Fault) (unclosed : Fault)
    (item : Reader α) : Reader (List α) where
  run s := if s.head? = some close then .ok ([], s.tail)
    else runUntil close unexpected unclosed item s
  shrinks {s as r} h := by
    split at h
    · cases h
      simp
    · exact runUntil_shrinks h

/-- Text up to the closing quote, with the escapes undone. An escape at the very end
stands for itself. -/
def unquote : Octets → Option (Octets × Octets)
  | [] => none
  | b :: s =>
    if b = Mark.quote.toUInt8 then some ([], s)
    else if b = Mark.escape.toUInt8 then
      match s with
      | [] => none
      | c :: t => (unquote t).map fun (body, rest) => (c :: body, rest)
    else (unquote s).map fun (body, rest) => (b :: body, rest)

theorem unquote_shrinks {s body r : Octets} (h : unquote s = some (body, r)) :
    r.length ≤ s.length := by
  fun_induction unquote s generalizing body r with
  | case1 => cases h
  | case2 => cases h; simp
  | case3 => cases h
  | case4 =>
    rename_i ih
    obtain ⟨⟨_, _⟩, ht, h⟩ := Option.map_eq_some_iff.1 h
    cases h
    have := ih ht
    simp only [List.length_cons]
    omega
  | case5 =>
    rename_i ih
    obtain ⟨⟨_, _⟩, ht, h⟩ := Option.map_eq_some_iff.1 h
    cases h
    have := ih ht
    simp only [List.length_cons]
    omega

/-- Quoted text after its opening quote. -/
def quoted : Reader String where
  run s := match unquote s with
    | none => .error (.fault .openText [])
    | some (body, r) => .ok (Utf8.decodeText body, r)
  shrinks {s a r} h := by
    cases hu : unquote s with
    | none => simp [hu] at h
    | some br =>
      simp only [hu, Except.ok.injEq, Prod.mk.injEq] at h
      exact h.2 ▸ unquote_shrinks hu

def isDelimiter (b : UInt8) : Bool :=
  Mark.isDelimiter (Char.ofNat b.toNat)

/-- An unquoted run up to the next delimiter, which may be empty. -/
def token : Reader (List Char) where
  run s := .ok (Utf8.decode (s.takeWhile fun b => !isDelimiter b),
    s.dropWhile fun b => !isDelimiter b)
  shrinks h := by
    cases h
    exact (List.dropWhile_sublist _).length_le

def key : Reader String where
  run s := match s with
    | [] => .ok ("", [])
    | b :: r => if b = Mark.quote.toUInt8 then quoted.run r else (token.map String.ofList).run s
  shrinks {s a r} h := by
    match s with
    | [] => cases h; simp
    | b :: t =>
      simp only at h
      split at h
      · exact Nat.le_succ_of_le (quoted.shrinks h)
      · exact (token.map String.ofList).shrinks h

/-- A key and a value with the separator between them. -/
def entry (value : Reader Value) : Reader (String × Value) where
  run s := match key.run s with
    | .error e => .error e
    | .ok (k, r) =>
      if r.head? = some '#'.toUInt8 then (value.map fun v => (k, v)).run r.tail
      else .error (.fault (.noSeparator k) r)
  shrinks {s a r} h := by
    cases hk : key.run s with
    | error e => simp [hk] at h
    | ok kr =>
      simp only [hk] at h
      split at h
      · have h1 := (value.map _).shrinks h
        have h2 := key.shrinks hk
        simp only [List.length_tail] at h1
        omega
      · cases h

/-- A tuple after its opening parenthesis. -/
def tupleTail (value : Reader Value) : Reader Row where
  run s :=
    let loneNull := (Utf8.encodeText "null)")
    if loneNull.isPrefixOf s then .ok ([.null], s.drop loneNull.length)
    else (elements ')'.toUInt8 .inTuple .openTuple value).run s
  shrinks {s a r} h := by
    simp only at h
    split at h
    · cases h
      simp
    · exact (elements ..).shrinks h

/-- A tuple with its opening parenthesis. -/
def tuple (value : Reader Value) : Reader Row where
  run s := if s.head? = some '('.toUInt8 then (tupleTail value).run s.tail
    else .error (.fault .notTuple s)
  shrinks {s a r} h := by
    split at h
    · have := (tupleTail value).shrinks h
      simp only [List.length_tail] at this
      omega
    · cases h

def bagTail (value : Reader Value) : Reader (List Row) :=
  elements '}'.toUInt8 .inBag .openBag (tuple value)

def mapTail (value : Reader Value) : Reader (List (String × Value)) :=
  (elements ']'.toUInt8 .inMap .openMap (entry value)).map KeyMap.ofList

/-- The reader for an octet string by its first octet. -/
def choose (inner inBag : Reader Value) (b : UInt8) : Option (Reader Value) :=
  if b = '('.toUInt8 then some ((tupleTail inner).map .tuple)
  else if b = '\x7b'.toUInt8 then some ((bagTail inBag).map .bag)
  else if b = '['.toUInt8 then some ((mapTail inner).map .map)
  else if b = Mark.quote.toUInt8 then some (quoted.map .text)
  else none

/-- A value whose nested values are read by `inner`, those in bags by `inBag`. -/
def dispatch (inner inBag : Reader Value) : Reader Value where
  run s := match s.head?.bind (choose inner inBag) with
    | some p => p.run s.tail
    | none => (token.map Atom.read).run s
  shrinks {s a r} h := by
    split at h
    · rename_i p _
      have := p.shrinks h
      simp only [List.length_tail] at this
      omega
    · exact (token.map Atom.read).shrinks h

/-- A value with room for `levels` levels of nesting, its own included. A value in a
bag is two levels below it. -/
def value : (levels : Nat) → Reader Value
  | 0 => fail .tooDeep
  | 1 => dispatch (fail .tooDeep) (fail .tooDeep)
  | n + 2 =>
    { run := fun s => (dispatch (value (n + 1)) (value n)).run s
      shrinks := fun h => (dispatch (value (n + 1)) (value n)).shrinks h }

end Reader

/-- The level of the deepest values. -/
def maxLevel : Nat := 256

inductive ReadError where
  | malformed (position : Nat) (cause : Fault)
  | tooDeep
  | wrongKind (expected actual : Kind)
  deriving DecidableEq, Repr

def ReadError.message : ReadError → String
  | .malformed position cause =>
    s!"[MALFORMED_VALUE] Cannot parse structured value at byte {position}: {cause.message}"
  | .tooDeep =>
    s!"[NESTING_TOO_DEEP] Structured value exceeds the maximum nesting depth of {maxLevel}"
  | .wrongKind expected actual =>
    s!"[UNEXPECTED_TYPE] A value of type \"{actual.name}\" cannot be converted to \"{expected.name}\""

/-- Reads a whole octet string as one value. -/
def Value.read (s : Octets) : Except ReadError Value :=
  match (Reader.value (maxLevel + 1)).run s with
  | .error .tooDeep => .error .tooDeep
  | .error (.fault cause rest) => .error (.malformed (s.length - rest.length) cause)
  | .ok (v, rest) =>
    if rest.isEmpty then .ok v else .error (.malformed (s.length - rest.length) .trailing)

end RangeSort
