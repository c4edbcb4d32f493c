import RangeSort.Schema.Columns
import RangeSort.Table.Column

/-! Boundary tables: one row per boundary, in batches of columns. -/

namespace RangeSort

structure Batch where
  length : Nat
  columns : List Column

structure Table where
  fields : List ColumnField
  batches : List Batch

namespace Batch

/-- A batch needs a column to hold its rows. -/
def ofRows (fields : List ColumnField) (rows : List Row) : Except Error Batch := do
  let columns ← (Column.encodeFields fields rows).mapError .schema
  if columns.isEmpty then .error .format else .ok ⟨rows.length, columns⟩

/-- The rows of a batch. A single column of bags stands for the rows in its bags. -/
def rows (b : Batch) : Except SchemaFault (List Row) :=
  match b.columns with
  | [.list slots items] => do
    let bags ← (Column.list slots items).cells.mapM id
    return bags.flatMap fun v => (Column.bag? v).getD []
  | columns => (Column.acrossColumns b.length (Column.cellsOfAll columns)).mapM id

end Batch

/-- The types of the keys in a table, those of the elements for a single bag. -/
def keyTypes : List ColumnField → List ColumnType
  | [.mk _ (.list (.mk _ (.struct fields) _)) _] => fields.map ColumnField.type
  | fields => fields.map ColumnField.type

def typesAgree [TypeEquality] (stored expected : List ColumnType) : Bool :=
  stored.length == expected.length &&
    (stored.zip expected).all fun (s, e) => TypeEquality.agrees s e

namespace Table

def ofBatches (schema : Schema) (batches : List (List Row)) : Except Error Table := do
  let fields ← schema.columns.mapError .schema
  let stored ← batches.mapM (Batch.ofRows fields)
  return ⟨fields, stored⟩

def ofRows (schema : Schema) (rows : List Row) : Except Error Table :=
  ofBatches schema [rows]

def checkKeys [TypeEquality] (t : Table) (location : String) (schema : Schema) :
    Except Error Unit := do
  let fields ← schema.columns.mapError .schema
  if typesAgree (keyTypes t.fields) (keyTypes fields) then .ok ()
  else .error (.config (.keyTypes location (keyTypes t.fields) (keyTypes fields)))

/-- The rows of all batches, when they are keys of `schema`. -/
def rows [TypeEquality] (t : Table) (location : String) (schema : Schema) :
    Except Error (List Row) := do
  t.checkKeys location schema
  let batches ← (t.batches.mapM Batch.rows).mapError .schema
  return batches.flatten

end Table

end RangeSort
