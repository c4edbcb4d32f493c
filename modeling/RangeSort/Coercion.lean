import RangeSort.Binary.Layout
import RangeSort.Value.Reader

/-! Typed values from the octets of a field. Numbers and booleans that cannot be
interpreted become null with a warning; malformed composites are errors. -/

namespace RangeSort

inductive Warning where
  | truncated (text : String) (target : Kind) (number : Nat) (result : Int)
  | tooLarge (target : Kind) (number : Nat)
  | noInteger (text : String) (target : Kind) (cause : IntegerFault)
  | discarded (text : String) (target : Kind)
  deriving DecidableEq, Repr

/-- A double as it appears in warnings. -/
def messageNumber (bits : Nat) : String :=
  String.ofList (FloatLayout.message.chars binary64 bits)

def Warning.message : Warning → String
  | .truncated text target number result =>
    let shown := messageNumber number
    let whole := String.ofList (integerChars result)
    s!"Value {text} in field being converted to {target.name} was truncated from {shown} to {whole}"
  | .tooLarge target number =>
    s!"Value {messageNumber number} too large for {target.name}"
  | .noInteger text target cause =>
    s!"Unable to interpret value {text} in field being converted to {target.name}, " ++
      s!"caught parse error <{cause.message}> field discarded"
  | .discarded text target =>
    s!"Unable to interpret value {text} in field being converted to {target.name}, field discarded"

namespace BinaryFormat

variable (f : BinaryFormat)

/-- Reads a number with blanks around it and one type suffix behind it. -/
def readField (s : List Char) : Option Nat :=
  let t := trimBlank s
  if spells "inf" t || spells "+inf" t || spells "infinity" t || spells "+infinity" t then
    some f.infinity
  else if spells "-inf" t || spells "-infinity" t then some (f.withSign true f.infinity)
  else if spells "nan" t then some f.quietNan
  else match t.getLast? with
    | some c =>
      f.read (if c = 'd' || c = 'D' || c = 'f' || c = 'F' then t.dropLast else t)
    | none => f.read t

/-- The integer part, kept between `-2 ^ bits` and `2 ^ bits - 1`. What is no number
counts as zero. -/
def truncate (bits pattern : Nat) : Int :=
  if f.isNan pattern then 0
  else
    let whole := f.units (f.magnitude pattern) / 2 ^ f.scale
    if f.isNegative pattern then -(min whole (2 ^ bits) : Nat)
    else (min whole (2 ^ bits - 1) : Nat)

/-- Whether the number is greater than `2 ^ bits`. -/
def exceeds (bits pattern : Nat) : Bool :=
  !f.isNan pattern && !f.isNegative pattern &&
    2 ^ bits * 2 ^ f.scale < f.units (f.magnitude pattern)

end BinaryFormat

inductive WholeNumber where
  | exact (n : Int)
  | truncated (n : Int) (number : Nat)
  | tooLarge (number : Nat)
  | invalid (cause : IntegerFault)
  deriving DecidableEq, Repr

/-- Text that is no integer in range is tried as a double, which is truncated. Only the
upper end is guarded; below the range the number is raised to its lower end. -/
def WholeNumber.read (bits : Nat) (s : List Char) : WholeNumber :=
  match readInteger bits s with
  | .ok n => .exact n
  | .error cause =>
    match binary64.readField s with
    | none => .invalid cause
    | some number =>
      if binary64.exceeds bits number then .tooLarge number
      else .truncated (binary64.truncate bits number) number

/-- A result with the warnings given on the way to it. -/
structure Coerced (α : Type) where
  result : Except ReadError α
  warnings : List Warning

namespace Coerced

def value (v : Value) : Coerced Value := ⟨.ok v, []⟩

def integer (target : Kind) (bits : Nat) (wrap : Int → Value) (octets : Octets) : Coerced Value :=
  let s := Utf8.decode octets
  let text := String.ofList s
  match WholeNumber.read bits s with
  | .exact n => value (wrap n)
  | .truncated n number => ⟨.ok (wrap n), [.truncated text target number n]⟩
  | .tooLarge number => ⟨.ok .null, [.tooLarge target number]⟩
  | .invalid cause => ⟨.ok .null, [.noInteger text target cause]⟩

def discard (target : Kind) (s : List Char) : Coerced Value :=
  ⟨.ok .null, [.discarded (String.ofList s) target]⟩

def number (target : Kind) (f : BinaryFormat) (wrap : Nat → Value) (octets : Octets) : Coerced Value :=
  let s := Utf8.decode octets
  match f.readField s with
  | some bits => value (wrap bits)
  | none => discard target s

def boolean (octets : Octets) : Coerced Value :=
  let s := Utf8.decode octets
  let t := trimBlank s
  if spells "true" t then value (.boolean true)
  else if spells "false" t then value (.boolean false)
  else discard .boolean s

/-- A value that was read for a field of kind `target`. -/
def ofRead (target : Kind) : Except ReadError Value → Coerced Value
  | .error e => ⟨.error e, []⟩
  | .ok .null => value .null
  | .ok v => if v.kind = target then value v else ⟨.error (.wrongKind target v.kind), []⟩

def composite (target : Kind) (octets : Octets) : Coerced Value :=
  ofRead target (Value.read octets)

def present (octets : Octets) : Kind → Coerced Value
  | .boolean => boolean octets
  | .int => integer .int 31 (fun n => .int (Int32.ofInt n)) octets
  | .long => integer .long 63 (fun n => .long (Int64.ofInt n)) octets
  | .float => number .float binary32 (fun bits => .float (UInt32.ofNat bits)) octets
  | .double => number .double binary64 (fun bits => .double (UInt64.ofNat bits)) octets
  | .text => value (.text (Utf8.decodeText octets))
  | .bytes | .unknown => value (.bytes octets)
  | .map => composite .map octets
  | .tuple => composite .tuple octets
  | .bag => composite .bag octets

end Coerced

/-- The value of a field of kind `target`. A missing field is null. -/
def coerce (target : Kind) (octets : Option Octets) : Coerced Value :=
  match octets with
  | none => .value .null
  | some b => .present b target

end RangeSort
