import RangeSort.Coercion
import RangeSort.Schema.Basic

/-! Rows of raw fields as typed rows. -/

namespace RangeSort

/-- Fields are coerced from left to right; missing ones are null and those beyond the
schema stay bytes. The first malformed field ends the row. -/
def coerceFields : List Field → List (Option Octets) → Coerced Row
  | [], raw => ⟨.ok (raw.map fun b => b.elim .null .bytes), []⟩
  | f :: fs, raw =>
    let first := coerce f.kind (raw.head?.getD none)
    match first.result with
    | .error e => ⟨.error e, first.warnings⟩
    | .ok v =>
      let rest := coerceFields fs raw.tail
      ⟨rest.result.map (v :: ·), first.warnings ++ rest.warnings⟩

def Schema.coerceRow (s : Schema) (raw : List (Option Octets)) : Coerced Row :=
  coerceFields s.fields raw

end RangeSort
