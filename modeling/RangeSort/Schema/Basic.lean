import RangeSort.Kind

/-! Schemas: ordered fields, which may nest, and the sort keys of a dataset. -/

namespace RangeSort

inductive Direction where
  | ascending
  | descending
  deriving DecidableEq, Repr, Inhabited

mutual

structure Schema where
  version : Int
  fields : List Field
  /-- The offsets of the fields to sort by. -/
  keyOffsets : List Nat
  /-- The directions to sort in, kept beside the offsets. -/
  keyDirections : List Direction

/-- Tuples and bags own a nested schema. That of a bag has one field, the tuple that
describes its elements, or none when their layout is unknown. -/
structure Field where
  name : Option String
  kind : Kind
  description : Option String
  nested : Option Schema

end

def Schema.empty : Schema := ⟨0, [], [], []⟩

instance : Inhabited Schema := ⟨.empty⟩

/-- The name in messages, where an unnamed field has none. -/
def Field.label (f : Field) : String :=
  f.name.getD ""

mutual

/-- Schemas are equal up to descriptions. -/
def Schema.same : Schema → Schema → Bool
  | ⟨v, fields, offsets, directions⟩, ⟨w, fields', offsets', directions'⟩ =>
    v == w && offsets == offsets' && directions == directions' && sameFields fields fields'
termination_by structural s => s

def sameFields : List Field → List Field → Bool
  | [], [] => true
  | f :: fs, g :: gs => f.same g && sameFields fs gs
  | _, _ => false
termination_by structural fs => fs

def Field.same : Field → Field → Bool
  | ⟨name, kind, _, nested⟩, ⟨name', kind', _, nested'⟩ =>
    name == name' && kind == kind' && sameNested nested nested'
termination_by structural f => f

def sameNested : Option Schema → Option Schema → Bool
  | none, none => true
  | some s, some t => s.same t
  | _, _ => false
termination_by structural s => s

end

instance : BEq Schema := ⟨Schema.same⟩

end RangeSort
