import RangeSort.Schema.Nesting

/-! Schemas as a query plan declares them, with layouts that may be known in part. -/

namespace RangeSort

structure LogicalField where
  name : Option String
  kind : Kind
  nested : Option (List LogicalField)
  deriving Inhabited

/-- What a field says of itself when no one described it. -/
def generatedDescription : String := "autogenerated from logical schema"

mutual

/-- A missing layout becomes an empty one, and only tuples and bags keep theirs. -/
def LogicalField.toField : LogicalField → Except SchemaFault Field
  | ⟨name, kind, nested⟩ =>
    (nestedSchema name kind nested).map fun s => ⟨name, kind, some generatedDescription, s⟩
termination_by structural f => f

def nestedSchema (name : Option String) (kind : Kind) :
    Option (List LogicalField) → Except SchemaFault (Option Schema)
  | none => .ok (if kind.isNested then some .empty else none)
  | some fields => do
    if kind = .bag then checkElement (name.getD "") (fields.map LogicalField.kind)
    if kind.isNested then
      let nested ← toFields fields
      return some ⟨0, nested, [], []⟩
    else return none
termination_by structural fields => fields

def toFields : List LogicalField → Except SchemaFault (List Field)
  | [] => .ok []
  | f :: fs => do
    let field ← f.toField
    let rest ← toFields fs
    return field :: rest
termination_by structural fs => fs

end

def Schema.ofLogical? (fields : List LogicalField) : Except SchemaFault Schema :=
  (toFields fields).map fun fields => ⟨0, fields, [], []⟩

end RangeSort
