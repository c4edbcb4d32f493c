import RangeSort.Proofs.Job
import RangeSort.Proofs.Table.RoundTrip

/-! The schema of a key describes the keys: whatever a schema takes, its keys have the fields and
types that the schema of the key says, and so their boundaries can be stored. -/

namespace RangeSort

theorem descends_takes : Descends Field.Takes where
  null := .null
  tuple hf h := (Field.takes_tuple hf).mp h

namespace SortKey

variable {schema : Schema} {columns : List KeyColumn} {key : SortKey}

theorem exists_field (hkey : ofColumns schema columns = .ok key) {i : Nat} {c : KeyColumn}
    (hc : columns[i]? = some c) :
    ∃ f, key.schema.fields[i]? = some f ∧ schema.resolve c.path = .ok f := by
  have hi : i < key.schema.fields.length := by
    rw [length_fields hkey]
    exact (List.getElem?_eq_some_iff.mp hc).1
  have hf := List.getElem?_eq_getElem hi
  exact ⟨_, hf, resolve_column hkey hc hf⟩

theorem exists_column (hkey : ofColumns schema columns = .ok key) {i : Nat} {f : Field}
    (hf : key.schema.fields[i]? = some f) :
    ∃ c : KeyColumn, columns[i]? = some c ∧ schema.resolve c.path = .ok f := by
  have hi : i < columns.length := by
    rw [← length_fields hkey]
    exact (List.getElem?_eq_some_iff.mp hf).1
  have hc := List.getElem?_eq_getElem hi
  exact ⟨_, hc, resolve_column hkey hc hf⟩

theorem takes_project_of_takes (hkey : ofColumns schema columns = .ok key) {record : Row}
    (hrecord : schema.Takes record) : key.schema.Takes (key.project record) := by
  intro i f hf
  obtain ⟨c, hc, hresolve⟩ := exists_column hkey hf
  rw [item_project hkey hc]
  exact (descends_takes.follow_schema hrecord hresolve).2

/-- Keys of records that a schema takes: one value for every column, taken by the field of the
column in the key's schema, and the only one that the record has at the column's path. Boundaries
of such records can be stored, if the key has a field and columns for all of them, in a table of
these columns that is read as the boundaries, kept in the width of the key's schema. -/
theorem takes_project (hkey : ofColumns schema columns = .ok key) :
    (∀ record, schema.Takes record →
      (key.project record).length = columns.length ∧
      key.schema.fields.length = columns.length ∧
      key.schema.Takes (key.project record) ∧
      ∀ (i : Nat) (c : KeyColumn), columns[i]? = some c →
        ∀ v, (key.project record)[i]? = some v ↔ record.At c.path v) ∧
    ∀ (records : List Row) (parts : Nat) (fields : List ColumnField), 1 ≤ parts →
      key.schema.fields ≠ [] → key.schema.columns = .ok fields →
      (∀ record ∈ records, schema.Takes record) →
      ∃ bounds t, (key.determineBoundaries records parts).result = .ok bounds ∧
        Table.ofRows key.schema bounds = .ok t ∧ t.fields = fields ∧
        t.batches.mapM Batch.rows = .ok [key.schema.kept bounds] := by
  constructor
  · intro record hrecord
    refine ⟨by rw [project, (ofColumns_eq_ok hkey).1, List.length_map], length_fields hkey,
      takes_project_of_takes hkey hrecord, fun i c hc v => ?_⟩
    obtain ⟨f, -, hresolve⟩ := exists_field hkey hc
    obtain ⟨hat, -⟩ := descends_takes.follow_schema hrecord hresolve
    rw [getElem?_project hkey, hc, Option.map_some, Option.some.injEq]
    constructor
    · rintro rfl
      exact hat
    · exact Row.At.follow_eq
  · intro records parts fields hparts hne hkeyed hrecords
    obtain ⟨bounds, hbounds⟩ : ∃ bounds, key.boundaries records parts = .ok bounds :=
      ⟨_, boundaries_eq hparts⟩
    have htaken : ∀ b ∈ bounds, key.schema.Takes b := by
      intro b hb
      obtain ⟨record, hrecord, rfl⟩ := mem_boundaries hbounds b hb
      exact takes_project_of_takes hkey (hrecords record hrecord)
    have htaken : ∀ b ∈ [bounds].flatten, key.schema.Takes b := by
      rwa [List.flatten_singleton]
    obtain ⟨stored, ht, hread⟩ :=
      Table.exists_ofBatches hkeyed (Schema.columns_ne_nil hkeyed hne) htaken
    exact ⟨bounds, _, result_determineBoundaries parts hbounds, ht, rfl, hread⟩

/-- A tuple that is too short for a path, and one that is null. -/
theorem takes_project_ragged :
    let columns : List KeyColumn := [⟨[0, 1], .descending⟩, ⟨[1], .ascending⟩]
    ∃ key fields, ofColumns FileStore.nestedSchema columns = .ok key ∧
      key.schema.columns = .ok fields ∧
      key.project [.tuple [.int 1]] = [.null, .null] ∧
      Row.At [.tuple [.int 1]] [0, 1] .null ∧
      key.schema.Takes (key.project [.null, .bag [[], [.text "a", .int 2]], .int 3]) ∧
      ∃ bounds t, (key.determineBoundaries FileStore.raggedRows 3).result = .ok bounds ∧
        Table.ofRows key.schema bounds = .ok t ∧
        t.batches.mapM Batch.rows = .ok [key.schema.kept bounds] := by
  intro columns
  have hkey : ofColumns FileStore.nestedSchema columns = .ok _ := rfl
  obtain ⟨hprojects, hstored⟩ := takes_project hkey
  have hrecords : ∀ r ∈ FileStore.raggedRows, FileStore.nestedSchema.Takes r :=
    (Table.takes_iff (rfl : FileStore.nestedSchema.columns = .ok _) (List.cons_ne_nil _ _)).mpr ⟨_, rfl⟩
  obtain ⟨-, -, -, hat⟩ := hprojects _ (hrecords _ List.mem_cons_self)
  obtain ⟨-, -, htakes, -⟩ := hprojects _ (hrecords _ (List.mem_cons_of_mem _ List.mem_cons_self))
  obtain ⟨bounds, t, hbounds, ht, -, hread⟩ :=
    hstored FileStore.raggedRows 3 _ (by decide) (List.cons_ne_nil _ _) rfl hrecords
  exact ⟨_, _, hkey, rfl, rfl, (hat 0 _ rfl .null).mp rfl, htakes, bounds, t, hbounds, ht, hread⟩

end SortKey

end RangeSort
