import RangeSort.Proofs.Schema.Acceptance
import RangeSort.Proofs.Schema.Columns
import RangeSort.Proofs.Table.TypeEquality

/-! What is read from a table of rows: the rows, or the rows in them when each is a bag. -/

namespace RangeSort

namespace Column

theorem encode_list {item : ColumnField} {values : List Value} {c : Column}
    (h : encode (.list item) values = .ok c) : ∃ slots items, c = .list slots items := by
  obtain ⟨bags, -, h⟩ := Except.bind_eq_ok.mp h
  obtain ⟨items, -, h⟩ := Except.bind_eq_ok.mp h
  cases h
  exact ⟨_, _, rfl⟩

theorem eq_list_of_encode {type : ColumnType} {values : List Value} {slots : List ListSlot}
    {items : Column} (h : encode type values = .ok (.list slots items)) :
    ∃ item, type = .list item := by
  cases type with
  | list item => exact ⟨item, rfl⟩
  | struct fields =>
    obtain ⟨rows, -, h⟩ := Except.bind_eq_ok.mp h
    obtain ⟨children, -, h⟩ := Except.bind_eq_ok.mp h
    cases h
  | other name => cases h
  | _ =>
    obtain ⟨cells, -, h⟩ := Except.map_eq_ok.mp h
    cases h

theorem encodeFields_length {fields : List ColumnField} {rows : List Row} {columns : List Column}
    (h : encodeFields fields rows = .ok columns) : columns.length = fields.length := by
  induction fields generalizing rows columns with
  | nil =>
    cases h
    rfl
  | cons f fields ih =>
    obtain ⟨first, -, h⟩ := Except.bind_eq_ok.mp h
    obtain ⟨rest, hrest, h⟩ := Except.bind_eq_ok.mp h
    cases h
    exact congrArg (· + 1) (ih hrest)

end Column

namespace Schema

/-- Whether the rows of a schema consist of one bag each. -/
def IsLoneBag (s : Schema) : Prop :=
  s.fields.map Field.kind = [.bag]

instance (s : Schema) : Decidable s.IsLoneBag :=
  inferInstanceAs (Decidable (s.fields.map Field.kind = [.bag]))

/-- What comes back of stored rows. -/
def reread (s : Schema) (rows : List Row) : List Row :=
  if s.IsLoneBag then rows.flatMap fun row => (Column.bag? (row.item 0)).getD [] else rows

end Schema

theorem Field.kind_of_column {f : Field} {item : ColumnField} (h : f.column = .ok (.list item)) :
    f.kind = .bag := by
  obtain ⟨name, kind, description, nested⟩ := f
  cases kind with
  | bag => rfl
  | tuple =>
    rw [Field.column] at h
    obtain ⟨inner, -, h⟩ := Except.bind_eq_ok.mp h
    cases h
  | _ => cases h

theorem Schema.isLoneBag_of_columns {s : Schema} {name : String} {item : ColumnField}
    {nullable : Bool} (h : s.columns = .ok [.mk name (.list item) nullable]) : s.IsLoneBag := by
  rw [Schema.columns_eq] at h
  obtain ⟨f, hf⟩ := List.length_eq_one_iff.mp (columnsFrom_length h).symm
  rw [hf] at h
  rw [Schema.IsLoneBag, hf, List.map_singleton, Field.kind_of_column (column_of_columnsFrom h)]

/-- Keys of a schema have the types of fields, also when they lie in bags. -/
theorem Schema.ofField_of_keyTypes {s : Schema} {fields : List ColumnField}
    (h : s.columns = .ok fields) : ∀ t ∈ keyTypes fields, t.OfField := by
  rw [columns_eq] at h
  have hcolumns := exists_column_of_columnsFrom h
  unfold keyTypes
  split
  · rw [List.forall_mem_singleton] at hcolumns
    obtain ⟨f, hf⟩ := hcolumns
    have hbag := f.column_bag (f.kind_of_column hf)
    obtain ⟨inner, hinner, heq⟩ := Except.map_eq_ok.mp (hbag.symm.trans hf)
    cases heq
    exact List.forall_mem_map.mpr (exists_column_of_columnsFrom hinner)
  · exact List.forall_mem_map.mpr hcolumns

theorem Field.column_of_kind {f : Field} {type : ColumnType} (hk : f.kind = .bag)
    (h : f.column = .ok type) : ∃ item, type = .list item := by
  rw [Field.column_bag hk] at h
  obtain ⟨inner, -, rfl⟩ := Except.map_eq_ok.mp h
  exact ⟨_, rfl⟩

namespace Batch

theorem rows_eq_of_not_list {b : Batch} (h : ∀ slots items, b.columns ≠ [.list slots items]) :
    b.rows = (Column.acrossColumns b.length (Column.cellsOfAll b.columns)).mapM id := by
  unfold rows
  split
  · exact absurd ‹_› (h _ _)
  · rfl

theorem columns_ne_nil {fields : List ColumnField} {rows : List Row} {columns : List Column}
    (hne : fields ≠ []) (h : Column.encodeFields fields rows = .ok columns) :
    columns.isEmpty = false := by
  rw [List.isEmpty_eq_false_iff, ← List.length_pos_iff, Column.encodeFields_length h,
    List.length_pos_iff]
  exact hne

theorem rows_of_loneBag {f : Field} (hk : f.kind = .bag) {index : Nat} {fields : List ColumnField}
    {rows : List Row} {columns : List Column} (hfields : columnsFrom index [f] = .ok fields)
    (hrows : ∀ r ∈ rows, f.Takes (r.headD .null))
    (hcolumns : Column.encodeFields fields rows = .ok columns) :
    (Batch.mk rows.length columns).rows =
      .ok (rows.flatMap fun row => (Column.bag? ((row.headD .null).cut f)).getD []) := by
  obtain ⟨type, htype, h⟩ := Except.bind_eq_ok.mp hfields
  cases h
  obtain ⟨first, rest, hfirst, hrest, rfl⟩ := Column.encodeFields_cons_eq_ok.mp hcolumns
  cases hrest
  obtain ⟨c, hc, hcells⟩ := (Field.keepsValues htype).encode (rows.map fun r => r.headD .null)
    (List.forall_mem_map.mpr hrows)
  rw [hc] at hfirst
  cases hfirst
  obtain ⟨item, rfl⟩ := Field.column_of_kind hk htype
  obtain ⟨slots, items, rfl⟩ := Column.encode_list hc
  simp only [Batch.rows, hcells, Except.mapM_id_map_ok, Except.ok_bind, List.flatMap_map]
  rfl

theorem not_list_of_not_loneBag {s : Schema} (hs : ¬ s.IsLoneBag) {fields : List ColumnField}
    {rows : List Row} {columns : List Column} (hfields : s.columns = .ok fields)
    (hcolumns : Column.encodeFields fields rows = .ok columns) (slots : List ListSlot)
    (items : Column) : columns ≠ [.list slots items] := by
  rintro rfl
  have hlen := Column.encodeFields_length hcolumns
  obtain ⟨⟨name, type, nullable⟩, rfl⟩ := List.length_eq_one_iff.mp hlen.symm
  obtain ⟨first, rest, hfirst, -, h⟩ := Column.encodeFields_cons_eq_ok.mp hcolumns
  cases h
  obtain ⟨item, rfl⟩ := Column.eq_list_of_encode hfirst
  exact hs (Schema.isLoneBag_of_columns hfields)

theorem ofRows_eq_ok {fields : List ColumnField} (hne : fields ≠ []) {rows : List Row} {b : Batch} :
    ofRows fields rows = .ok b ↔
      ∃ columns, Column.encodeFields fields rows = .ok columns ∧ b = ⟨rows.length, columns⟩ := by
  constructor
  · intro h
    obtain ⟨columns, hcolumns, h⟩ := Except.bind_eq_ok.mp h
    rw [Except.mapError_eq_ok] at hcolumns
    rw [columns_ne_nil hne hcolumns] at h
    cases h
    exact ⟨columns, hcolumns, rfl⟩
  · rintro ⟨columns, hcolumns, rfl⟩
    simp only [ofRows, hcolumns, Except.mapError_ok, Except.ok_bind, columns_ne_nil hne hcolumns]
    rfl

section

variable {schema : Schema} {fields : List ColumnField} {rows : List Row}

theorem takes_of_ofRows (hfields : schema.columns = .ok fields) (hne : fields ≠ []) {b : Batch}
    (h : ofRows fields rows = .ok b) : ∀ r ∈ rows, schema.Takes r := by
  obtain ⟨columns, hcolumns, -⟩ := (ofRows_eq_ok hne).mp h
  exact (Schema.keepsRows hfields).takes hcolumns

theorem exists_ofRows (hfields : schema.columns = .ok fields) (hne : fields ≠ [])
    (hrows : ∀ r ∈ rows, schema.Takes r) :
    ∃ b, ofRows fields rows = .ok b ∧ b.rows = .ok (schema.reread (rows.map schema.cut)) := by
  obtain ⟨columns, hcolumns, hacross⟩ := (Schema.keepsRows hfields).encode rows hrows
  refine ⟨⟨rows.length, columns⟩, (ofRows_eq_ok hne).mpr ⟨columns, hcolumns, rfl⟩, ?_⟩
  by_cases hbag : schema.IsLoneBag
  · obtain ⟨f, hf, hk⟩ := List.map_eq_singleton_iff.mp hbag
    rw [Schema.columns_eq, hf] at hfields
    have htakes : ∀ r ∈ rows, f.Takes (r.headD .null) := by
      intro r hr
      have := hrows r hr
      rw [Schema.Takes, hf] at this
      exact (fieldsTake_cons.mp this).1
    rw [rows_of_loneBag hk hfields htakes hcolumns, Schema.reread, if_pos hbag, List.flatMap_map]
    refine congrArg Except.ok (List.flatMap_congr fun r _ => ?_)
    rw [Schema.cut, hf, cutItems_cons]
    rfl
  · rw [rows_eq_of_not_list (not_list_of_not_loneBag hbag hfields hcolumns), hacross,
      Except.mapM_id_map_ok, Schema.reread, if_neg hbag]

end

end Batch

theorem Schema.reread_flatten (s : Schema) (batches : List (List Row)) :
    s.reread batches.flatten = (batches.map s.reread).flatten := by
  induction batches with
  | nil =>
    unfold Schema.reread
    split <;> rfl
  | cons rows batches ih =>
    rw [List.flatten_cons, List.map_cons, List.flatten_cons, ← ih]
    unfold Schema.reread
    split
    · exact List.flatMap_append
    · rfl

namespace Table

variable {schema : Schema} {fields : List ColumnField} {rows : List Row}

theorem ofBatches_eq (hfields : schema.columns = .ok fields) (batches : List (List Row)) :
    ofBatches schema batches = (batches.mapM (Batch.ofRows fields)).map (Table.mk fields) := by
  simp only [ofBatches, hfields, Except.mapError_ok, Except.ok_bind]
  cases batches.mapM (Batch.ofRows fields) <;> rfl

/-- Rows that are taken are stored in any batches. -/
theorem exists_ofBatches (hfields : schema.columns = .ok fields) (hne : fields ≠ [])
    {batches : List (List Row)} (hrows : ∀ r ∈ batches.flatten, schema.Takes r) :
    ∃ stored, ofBatches schema batches = .ok ⟨fields, stored⟩ ∧
      stored.mapM Batch.rows =
        .ok (batches.map fun rows => schema.reread (rows.map schema.cut)) := by
  rw [ofBatches_eq hfields]
  induction batches with
  | nil => exact ⟨[], rfl, rfl⟩
  | cons rows batches ih =>
    rw [List.flatten_cons, List.forall_mem_append] at hrows
    obtain ⟨stored, hstored, hread⟩ := ih hrows.2
    obtain ⟨b, hb, hrow⟩ := Batch.exists_ofRows hfields hne hrows.1
    obtain ⟨stored', hstored, h⟩ := Except.map_eq_ok.mp hstored
    cases h
    refine ⟨b :: stored, ?_, ?_⟩
    · rw [List.mapM_cons, hb, hstored]
      rfl
    · rw [List.mapM_cons, hrow, hread]
      rfl

/-- Stored rows are read with any schema of the same key types. -/
theorem rows_eq [TypeEquality] {other : Schema} {stored : List Batch} {expected : List ColumnField}
    {batches : List (List Row)} (hexpected : other.columns = .ok expected)
    (hread : stored.mapM Batch.rows = .ok batches) (location : String) :
    Table.rows ⟨fields, stored⟩ location other =
      if typesAgree (keyTypes fields) (keyTypes expected) then .ok batches.flatten
      else .error (.config (.keyTypes location (keyTypes fields) (keyTypes expected))) := by
  simp only [Table.rows, checkKeys, hexpected, hread, Except.mapError_ok, Except.ok_bind]
  split <;> rfl

/-- Rows that fit are stored, and what comes back of them passes the check of the types. -/
theorem exists_ofRows [TypeEquality] [LawfulTypeEquality] (hfields : schema.columns = .ok fields)
    (hne : fields ≠ []) (hrows : ∀ r ∈ rows, fieldsFit schema.fields r) :
    ∃ t, ofRows schema rows = .ok t ∧
      ∀ location, t.rows location schema = .ok (schema.reread rows) := by
  have hkept : ∀ r ∈ rows, schema.Takes r ∧ schema.cut r = r :=
    fun r hr => (Schema.fits_iff hfields r).mp (hrows r hr)
  obtain ⟨stored, ht, hread⟩ := exists_ofBatches hfields hne
    (List.forall_mem_flatten.mpr
      (List.forall_mem_singleton.mpr fun r hr => (hkept r hr).1) : ∀ r ∈ [rows].flatten, _)
  refine ⟨_, ht, fun location => ?_⟩
  have hcut : rows.map schema.cut = rows :=
    (List.map_congr_left fun r hr => (hkept r hr).2).trans rows.map_id
  rw [rows_eq hfields hread, typesAgree_self (Schema.ofField_of_keyTypes hfields),
    List.map_singleton, hcut, List.flatten_singleton]
  rfl

end Table

end RangeSort
