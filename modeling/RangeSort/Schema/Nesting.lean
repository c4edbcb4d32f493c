import RangeSort.Error
import RangeSort.Schema.Basic

/-! Which fields may have a nested schema, and of what form. -/

namespace RangeSort

/-- The elements of a bag are described by one tuple field. -/
def checkElement (name : String) (fields : List Kind) : Except SchemaFault Unit :=
  if fields = [.tuple] then .ok () else .error (.bagElement name fields.length)

mutual

def Schema.check : Schema → Except SchemaFault Unit
  | ⟨_, fields, _, _⟩ => checkFields fields
termination_by structural s => s

def checkFields : List Field → Except SchemaFault Unit
  | [] => .ok ()
  | f :: fs => do
    f.check
    checkFields fs
termination_by structural fs => fs

def Field.check : Field → Except SchemaFault Unit
  | ⟨name, kind, _, nested⟩ => checkNested (name.getD "") kind nested
termination_by structural f => f

def checkNested (name : String) (kind : Kind) : Option Schema → Except SchemaFault Unit
  | none => .ok ()
  | some s =>
    match kind with
    | .tuple => s.check
    | .bag => do
      unless s.fields.isEmpty do checkElement name (s.fields.map Field.kind)
      s.check
    | _ => .error (.notNested name kind)
termination_by structural s => s

end

/-- A schema of fields that obey the nesting rules. -/
def Schema.ofFields? (fields : List Field) : Except SchemaFault Schema := do
  checkFields fields
  .ok ⟨0, fields, [], []⟩

end RangeSort
