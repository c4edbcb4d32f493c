import RangeSort.Table.Basic

/-! Writing tables to a storage and reading them from it. -/

namespace RangeSort

/-- A storage keeps content at locations. A table is content in some form. -/
class Storage (σ : Type) where
  Content : Type
  ofTable : Table → Content
  /-- Content may be no table. -/
  toTable : Content → Except Error Table
  /-- The storage after content is put at a location, or after that failed. -/
  put : σ → (location : String) → Content → Except Error Unit × σ
  get : σ → (location : String) → Except Error Content

namespace Storage

variable {σ : Type} [Storage σ]

def write (s : σ) (location : String) (t : Table) : Except Error Unit × σ :=
  put s location (ofTable t)

def read (s : σ) (location : String) : Except Error Table := do
  toTable (← get s location)

/-- Writes rows laid out as `schema`. Nothing is stored unless all rows fit. -/
def writeTable (s : σ) (location : String) (schema : Schema) (rows : List Row) :
    Except Error Unit × σ :=
  match Table.ofRows schema rows with
  | .ok t => write s location t
  | .error e => (.error e, s)

/-- The rows of the stored table in their order. -/
def readTable [TypeEquality] (s : σ) (location : String) (schema : Schema) :
    Except Error (List Row) := do
  let t ← read s location
  t.rows location schema

end Storage

end RangeSort
