import RangeSort.Schema.Basic

/-! The text of a schema, on one line. -/

namespace RangeSort

/-- The brackets around the fields of a nested schema. -/
def Kind.brackets : Kind → String × String
  | .bag => ("\x7b", "\x7d")
  | .tuple => ("(", ")")
  | _ => ("<", ">")

mutual

def Schema.fieldTexts : Schema → List String
  | ⟨_, fields, _, _⟩ => renderFields fields
termination_by structural s => s

def renderFields : List Field → List String
  | [] => []
  | f :: fs => f.render :: renderFields fs
termination_by structural fs => fs

def Field.render : Field → String
  | ⟨name, kind, _, nested⟩ =>
    let layout := if kind.isNested then
        kind.brackets.1 ++ ",".intercalate (nestedTexts nested) ++ kind.brackets.2
      else kind.name
    name.getD "" ++ ":" ++ layout
termination_by structural f => f

def nestedTexts : Option Schema → List String
  | none => []
  | some s => s.fieldTexts
termination_by structural s => s

end

def Schema.render (s : Schema) : String :=
  Kind.unknown.brackets.1 ++ ",".intercalate s.fieldTexts ++ Kind.unknown.brackets.2

end RangeSort
