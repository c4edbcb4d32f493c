import RangeSort.Schema.Nesting

/-! Changes to a schema in place. Replacing the fields or the sort keys is checked; a change of
one field is not, because it cannot disturb the sort keys. -/

namespace RangeSort

/-- A change made to a schema where it is. It leaves a schema there also when it fails. -/
abbrev InPlace (ε : Type) := ExceptT ε (StateM Schema)

namespace InPlace

variable {ε α : Type}

/-- What a change comes to, and the schema that it leaves. -/
def outcome (change : InPlace ε α) (s : Schema) : Except ε α × Schema :=
  (change.run.run s).run

/-- The schema that a change makes. -/
def result (change : InPlace ε Unit) (s : Schema) : Except ε Schema :=
  (change.outcome s).1.map fun _ => (change.outcome s).2

end InPlace

inductive FieldEdit where
  | name (value : Option String)
  | description (value : Option String)
  | kind (value : Kind)
  | nested (value : Option Schema)

inductive Edit where
  | fields (value : List Field)
  | sortKeys (keys : List Nat) (directions : List Direction)
  | direction (index : Nat) (value : Direction)
  | version (value : Int)
  /-- Changes the field found by descending along the offsets. -/
  | field (path : List Nat) (edits : List FieldEdit)

inductive EditFault where
  | schema (cause : SchemaFault)
  | noField
  | noNestedSchema
  | noSortKey

def FieldEdit.apply (f : Field) : FieldEdit → Field
  | .name value => { f with name := value }
  | .description value => { f with description := value }
  | .kind value => { f with kind := value }
  | .nested value => { f with nested := value }

namespace Schema

def fieldAt : List Nat → Schema → Except EditFault Field
  | [], _ => .error .noField
  | i :: path, s =>
    match s.fields[i]? with
    | none => .error .noField
    | some f =>
      if path.isEmpty then .ok f
      else match f.nested with
        | none => .error .noNestedSchema
        | some n => n.fieldAt path

def setVersion {ε : Type} (value : Int) : InPlace ε Unit :=
  modify fun s => { s with version := value }

def setFields (value : List Field) : InPlace SchemaFault Unit := do
  match (← get).keyOffsets.find? fun k => value.length ≤ k with
  | some k => throw (.keyOutOfRange k value.length)
  | none =>
    ofExcept (checkFields value)
    modify fun s => { s with fields := value }

def setSortKeys (keys : List Nat) (directions : List Direction) : InPlace SchemaFault Unit :=
  if keys.length ≠ directions.length then
    throw (.orderCount keys.length directions.length)
  else do
    let count := (← get).fields.length
    match keys.find? fun k => count ≤ k with
    | some k => throw (.keyOutOfRange k count)
    | none =>
      modify fun s => { s with keyOffsets := keys }
      modify fun s => { s with keyDirections := directions }

def setDirection (index : Nat) (d : Direction) : InPlace EditFault Unit := do
  if (← get).keyDirections.length ≤ index then
    throw .noSortKey
  else
    modify fun s => { s with keyDirections := s.keyDirections.set index d }

def setField (edit : Field → Field) (i : Nat) : InPlace EditFault Unit := do
  match (← get).fields[i]? with
  | none => throw .noField
  | some f => modify fun s => { s with fields := s.fields.set i (edit f) }

/-- A change of the schema nested in a field. What the change leaves stays in the field. -/
def within (i : Nat) (change : InPlace EditFault Unit) : InPlace EditFault Unit := do
  match (← get).fields[i]? with
  | none => throw .noField
  | some f =>
    match f.nested with
    | none => throw .noNestedSchema
    | some n =>
      let (done, left) := change.outcome n
      modify fun s => { s with fields := s.fields.set i { f with nested := some left } }
      ofExcept done

/-- A change of the schema that the offsets lead to. -/
def atLevel (change : InPlace EditFault Unit) : List Nat → InPlace EditFault Unit
  | [] => change
  | i :: path => within i (atLevel change path)

def editField (edit : Field → Field) : List Nat → InPlace EditFault Unit
  | [] => throw .noField
  | [i] => setField edit i
  | i :: path => within i (editField edit path)

/-- The schema with other sort keys. -/
def withSortKeys (s : Schema) (keys : List Nat) (directions : List Direction) :
    Except SchemaFault Schema :=
  (setSortKeys keys directions).result s

end Schema

def Edit.perform : Edit → InPlace EditFault Unit
  | .fields value => (Schema.setFields value).adapt .schema
  | .sortKeys keys directions => (Schema.setSortKeys keys directions).adapt .schema
  | .direction index value => Schema.setDirection index value
  | .version value => Schema.setVersion value
  | .field path edits => Schema.editField (fun f => edits.foldl FieldEdit.apply f) path

end RangeSort
