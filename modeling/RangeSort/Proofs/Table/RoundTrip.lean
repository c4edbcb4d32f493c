import RangeSort.Proofs.Table.Rows
import RangeSort.Proofs.Table.FileStore

/-! A table takes the rows that its schema takes, and gives them back cut to the width of
the schema, in whatever batches they are stored. -/

namespace RangeSort

/-- What a table of `rows` gives back. -/
def Schema.kept (s : Schema) (rows : List Row) : List Row :=
  s.reread (rows.map s.cut)

theorem Schema.columns_ne_nil {s : Schema} {fields : List ColumnField}
    (h : s.columns = .ok fields) (hne : s.fields ≠ []) : fields ≠ [] := by
  rw [Schema.columns_eq] at h
  rw [← List.length_pos_iff, columnsFrom_length h, List.length_pos_iff]
  exact hne

theorem Schema.kept_flatten (s : Schema) (batches : List (List Row)) :
    (batches.map s.kept).flatten = s.kept batches.flatten := by
  have hcut : batches.flatten.map s.cut = (batches.map (List.map s.cut)).flatten :=
    List.map_flatten
  rw [Schema.kept, hcut, Schema.reread_flatten, List.map_map]
  rfl

theorem Batch.ofRows_eq_error {fields : List ColumnField} {rows : List Row} {e : Error}
    (hne : fields ≠ []) (h : ofRows fields rows = .error e) : ∃ fault, e = .schema fault := by
  cases hcolumns : Column.encodeFields fields rows with
  | error fault =>
    simp only [ofRows, hcolumns] at h
    cases h
    exact ⟨fault, rfl⟩
  | ok columns =>
    have hok := (ofRows_eq_ok hne).mpr ⟨columns, hcolumns, rfl⟩
    rw [hok] at h
    cases h

namespace Table

variable {schema : Schema} {fields : List ColumnField} {rows : List Row}

theorem ofRows_eq (hfields : schema.columns = .ok fields) :
    ofRows schema rows = (Batch.ofRows fields rows).map fun b => ⟨fields, [b]⟩ := by
  rw [ofRows, ofBatches_eq hfields, List.mapM_cons]
  cases Batch.ofRows fields rows <;> rfl

theorem takes_iff (hfields : schema.columns = .ok fields) (hne : fields ≠ []) :
    (∀ r ∈ rows, schema.Takes r) ↔ ∃ t, ofRows schema rows = .ok t := by
  rw [ofRows_eq hfields]
  constructor
  · intro h
    obtain ⟨b, hb, -⟩ := Batch.exists_ofRows hfields hne h
    exact ⟨_, by rw [hb, Except.map_ok]⟩
  · rintro ⟨t, ht⟩
    obtain ⟨b, hb, -⟩ := Except.map_eq_ok.mp ht
    exact Batch.takes_of_ofRows hfields hne hb

theorem ofRows_of_not_takes (hfields : schema.columns = .ok fields) (hne : fields ≠ [])
    (h : ¬ ∀ r ∈ rows, schema.Takes r) : ∃ fault, ofRows schema rows = .error (.schema fault) := by
  have hnone := (takes_iff hfields hne).not.mp h
  rw [ofRows_eq hfields] at hnone ⊢
  cases hb : Batch.ofRows fields rows with
  | ok b => exact absurd ⟨_, by rw [hb, Except.map_ok]⟩ hnone
  | error e =>
    obtain ⟨fault, rfl⟩ := Batch.ofRows_eq_error hne hb
    exact ⟨fault, rfl⟩

theorem rows_ofBatches [TypeEquality] (hfields : schema.columns = .ok fields) (hne : fields ≠ [])
    {batches : List (List Row)} (hrows : ∀ r ∈ batches.flatten, schema.Takes r) :
    ∃ t, ofBatches schema batches = .ok t ∧
      ∀ (other : Schema) (expected : List ColumnField) (location : String),
        other.columns = .ok expected →
        t.rows location other =
          if typesAgree (keyTypes fields) (keyTypes expected) then .ok (schema.kept batches.flatten)
          else .error (.config (.keyTypes location (keyTypes fields) (keyTypes expected))) := by
  obtain ⟨stored, ht, hread⟩ := exists_ofBatches hfields hne hrows
  refine ⟨_, ht, fun other expected location hexpected => ?_⟩
  rw [rows_eq hexpected hread, ← Schema.kept_flatten]
  rfl

end Table

/-- Rows are stored when the schema takes them all, and otherwise nothing is. A location that
keeps what is put there gives them back, also when they lie in several batches; a schema of other
key types is refused. -/
theorem Storage.readTable_writeTable {σ : Type} [Storage σ] [LawfulStorage σ] [TypeEquality]
    [LawfulTypeEquality] {schema : Schema} {fields : List ColumnField}
    (hfields : schema.columns = .ok fields) (hne : schema.fields ≠ []) (s : σ)
    (location : String) (rows : List Row) :
    ((∀ r ∈ rows, schema.Takes r) ↔ ∃ t, Table.ofRows schema rows = .ok t) ∧
    ((¬ ∀ r ∈ rows, schema.Takes r) →
      ∃ fault, Table.ofRows schema rows = .error (.schema fault) ∧
        writeTable s location schema rows = (.error (.schema fault), s)) ∧
    (Keeps s location → (writeTable s location schema rows).1 = .ok () →
      readTable (writeTable s location schema rows).2 location schema = .ok (schema.kept rows)) ∧
    ∀ batches : List (List Row), batches.flatten = rows → (∀ r ∈ rows, schema.Takes r) →
      ∃ t, Table.ofBatches schema batches = .ok t ∧
        ∀ (other : Schema) (expected : List ColumnField) (location : String),
          other.columns = .ok expected →
          t.rows location other =
            if typesAgree (keyTypes fields) (keyTypes expected) then .ok (schema.kept rows)
            else .error (.config (.keyTypes location (keyTypes fields) (keyTypes expected))) := by
  have hcolumns : fields ≠ [] := Schema.columns_ne_nil hfields hne
  refine ⟨Table.takes_iff hfields hcolumns, ?_, ?_, ?_⟩
  · intro h
    obtain ⟨fault, hfault⟩ := Table.ofRows_of_not_takes hfields hcolumns h
    exact ⟨fault, hfault, by simp only [writeTable, hfault]⟩
  · intro hkeeps hwritten
    cases ht : Table.ofRows schema rows with
    | error e =>
      simp only [writeTable, ht] at hwritten
      cases hwritten
    | ok t =>
      have hrows := (Table.takes_iff hfields hcolumns).mpr ⟨t, ht⟩
      have hflat : [rows].flatten = rows := List.flatten_singleton
      obtain ⟨t', ht', hread⟩ := Table.rows_ofBatches hfields hcolumns (hflat.symm ▸ hrows)
      cases ht.symm.trans ht'
      simp only [writeTable, ht] at hwritten ⊢
      rw [readTable_of_read (hkeeps.read_write hwritten)]
      have := hread schema fields location hfields
      rwa [typesAgree_self (Schema.ofField_of_keyTypes hfields), if_pos rfl, hflat] at this
  · rintro batches rfl hrows
    exact Table.rows_ofBatches hfields hcolumns hrows

namespace FileStore

def nestedSchema : Schema :=
  ⟨0, [⟨some "pair", .tuple, none, some ⟨0, [⟨some "x", .int, none, none⟩,
      ⟨some "y", .unknown, none, none⟩], [], []⟩⟩,
    ⟨some "all", .bag, none, some ⟨0, [⟨none, .tuple, none,
      some ⟨0, [⟨some "k", .text, none, none⟩], [], []⟩⟩], [], []⟩⟩], [], []⟩

def raggedRows : List Row :=
  [[.tuple [.int 1]], [.null, .bag [[], [.text "a", .int 2]], .int 3]]

theorem readTable_writeTable_ragged :
    (∀ r ∈ raggedRows, nestedSchema.Takes r) ∧
    Storage.readTable (Storage.writeTable empty "b" nestedSchema raggedRows).2 "b" nestedSchema =
      .ok [[.tuple [.int 1, .null], .null], [.null, .bag [[.null], [.text "a"]]]] := by
  obtain ⟨htakes, -, hread, -⟩ := Storage.readTable_writeTable
    (rfl : nestedSchema.columns = .ok _) (List.cons_ne_nil _ _) empty "b" raggedRows
  exact ⟨htakes.mpr ⟨_, rfl⟩, hread usable_empty.keeps rfl⟩

/-- Nothing that is written to memory is found again. -/
theorem readTable_writeTable_memory :
    ¬ ∀ (schema : Schema) (fields : List ColumnField) (s : FileStore) (location : String)
        (rows : List Row),
      schema.columns = .ok fields → schema.fields ≠ [] →
      (Storage.writeTable s location schema rows).1 = .ok () →
      Storage.readTable (Storage.writeTable s location schema rows).2 location schema =
        .ok (schema.kept rows) := by
  intro h
  have hread := h ⟨0, [⟨some "k", .int, none, none⟩], [], []⟩ _ empty "memory:///b" [[.int 1]]
    rfl (List.cons_ne_nil _ _) rfl
  cases hread

end FileStore

end RangeSort
