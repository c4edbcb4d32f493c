import RangeSort.Proofs.Schema.Shape
import RangeSort.Proofs.Table.Foreign
import RangeSort.Proofs.Table.RoundTrip

/-! The check of the types of a stored table. It passes for the schemas whose keys have the shape
that the table was written with, and for no others. -/

namespace RangeSort

/-- All columns of fields may hold nulls, so that only their types matter. -/
theorem unnamed_types_columnsFrom {fs gs : List Field} {i j : Nat} {ts us : List ColumnField}
    (hts : columnsFrom i fs = .ok ts) (hus : columnsFrom j gs = .ok us) :
    (ts.map ColumnField.type).map ColumnType.unnamed =
        (us.map ColumnField.type).map ColumnType.unnamed ↔
      unnamedFields ts = unnamedFields us := by
  induction fs generalizing gs i j ts us with
  | nil =>
    cases hts
    cases us <;> simp [unnamedFields]
  | cons f fs ih =>
    obtain ⟨t, ts, -, hts', rfl⟩ := columnsFrom_cons_eq_ok.mp hts
    cases gs with
    | nil =>
      cases hus
      simp [unnamedFields]
    | cons g gs =>
      obtain ⟨u, us, -, hus', rfl⟩ := columnsFrom_cons_eq_ok.mp hus
      simp only [List.map_cons, unnamedFields, ColumnField.unnamed, ColumnField.type,
        List.cons.injEq, ih hts' hus', ColumnField.mk.injEq, true_and, and_true]

theorem Field.kind_of_shape {f : Field} {items : List Shape} (h : f.shape = .bag items) :
    f.kind = .bag := by
  rcases f.kind.plain_or_nested with hplain | hk | hk
  · rw [shape_plain hplain] at h
    cases h
  · rw [shape_tuple hk] at h
    cases h
  · exact hk

namespace Schema

variable {s : Schema} {fields : List ColumnField}

/-- The keys in a table are laid out as fields that have the shape of the keys. -/
theorem exists_keyTypes (h : s.columns = .ok fields) :
    ∃ fs index inner, columnsFrom index fs = .ok inner ∧ s.keyShape = fs.map Field.shape ∧
      keyTypes fields = inner.map ColumnField.type := by
  have hcolumns := h
  rw [columns_eq] at hcolumns
  by_cases hbag : s.IsLoneBag
  · obtain ⟨f, hf, hk⟩ := List.map_eq_singleton_iff.mp hbag
    rw [hf] at hcolumns
    obtain ⟨type, rest, htype, hrest, rfl⟩ := columnsFrom_cons_eq_ok.mp hcolumns
    cases hrest
    rw [Field.column_bag hk] at htype
    obtain ⟨inner, hinner, rfl⟩ := Except.map_eq_ok.mp htype
    refine ⟨f.elementFields, 0, inner, hinner, ?_, rfl⟩
    rw [keyShape, shape, hf, List.map_singleton, Field.shape_bag hk]
  · refine ⟨s.fields, 0, fields, hcolumns, ?_, keyTypes_eq_map ?_⟩
    · unfold keyShape
      split
      · rename_i items hshape
        obtain ⟨f, hf, hk⟩ := List.map_eq_singleton_iff.mp hshape
        exact absurd (by rw [IsLoneBag, hf, List.map_singleton, Field.kind_of_shape hk]) hbag
      · rfl
    · rintro name item nullable rfl
      exact hbag (isLoneBag_of_columns h)

theorem typesAgree_keyTypes [TypeEquality] [LawfulTypeEquality] {t : Schema}
    {expected : List ColumnField} (hs : s.columns = .ok fields) (ht : t.columns = .ok expected) :
    typesAgree (keyTypes fields) (keyTypes expected) = true ↔ s.keyShape = t.keyShape := by
  obtain ⟨fs, i, ts, hts, hshape, htypes⟩ := exists_keyTypes hs
  obtain ⟨gs, j, us, hus, hshape', htypes'⟩ := exists_keyTypes ht
  rw [typesAgree_iff (ofField_of_keyTypes ht), htypes, htypes', hshape, hshape',
    unnamed_types_columnsFrom hts hus]
  exact unnamedFields_iff (fun f _ => f.typedByShape) hts hus

end Schema

namespace Table

variable {schema : Schema} {fields : List ColumnField} {batches : List (List Row)} {t : Table}

theorem fields_of_ofBatches (hfields : schema.columns = .ok fields)
    (h : ofBatches schema batches = .ok t) : t.fields = fields := by
  rw [ofBatches_eq hfields] at h
  obtain ⟨stored, -, rfl⟩ := Except.map_eq_ok.mp h
  rfl

theorem takes_of_ofBatches (hfields : schema.columns = .ok fields) (hne : fields ≠ [])
    (h : ofBatches schema batches = .ok t) : ∀ r ∈ batches.flatten, schema.Takes r := by
  rw [ofBatches_eq hfields] at h
  obtain ⟨stored, hstored, -⟩ := Except.map_eq_ok.mp h
  intro r hr
  obtain ⟨rows, hrows, hr⟩ := List.mem_flatten.mp hr
  obtain ⟨b, -, hb⟩ := (Except.exists_of_mapM_eq_ok hstored).1 rows hrows
  exact Batch.takes_of_ofRows hfields hne hb r hr

theorem checkKeys_eq_ok [TypeEquality] {other : Schema} {expected : List ColumnField}
    (hexpected : other.columns = .ok expected) (location : String) :
    t.checkKeys location other = .ok () ↔
      typesAgree (keyTypes t.fields) (keyTypes expected) = true := by
  simp only [checkKeys, hexpected, Except.mapError_ok, Except.ok_bind]
  split <;> simp_all

end Table

/-- A table is read with the schemas whose keys have the shape of those it was written with,
wherever it is found. With any other schema the fault tells the types of both. -/
theorem Storage.readTable_of_keyShape {σ : Type} [Storage σ] [TypeEquality] [LawfulTypeEquality]
    {schema other : Schema} {fields expected : List ColumnField}
    (hfields : schema.columns = .ok fields) (hne : schema.fields ≠ [])
    (hexpected : other.columns = .ok expected) {batches : List (List Row)} {t : Table}
    (ht : Table.ofBatches schema batches = .ok t) :
    (∀ location, t.checkKeys location other = .ok () ↔ schema.keyShape = other.keyShape) ∧
    ∀ (s : σ) (location : String), read s location = .ok t →
      (schema.keyShape = other.keyShape →
        readTable s location other = .ok (schema.kept batches.flatten)) ∧
      (schema.keyShape ≠ other.keyShape →
        readTable s location other =
          .error (.config (.keyTypes location (keyTypes fields) (keyTypes expected)))) := by
  have hcolumns := Schema.columns_ne_nil hfields hne
  have hagree := Schema.typesAgree_keyTypes hfields hexpected
  obtain ⟨t', ht', hrows⟩ := Table.rows_ofBatches hfields hcolumns
    (Table.takes_of_ofBatches hfields hcolumns ht)
  cases ht.symm.trans ht'
  refine ⟨fun location => ?_, fun s location hread => ?_⟩
  · rw [Table.checkKeys_eq_ok hexpected, Table.fields_of_ofBatches hfields ht, hagree]
  · rw [readTable_of_read hread, hrows other expected location hexpected]
    exact ⟨fun h => if_pos (hagree.mpr h), fun h => if_neg (mt hagree.mp h)⟩

namespace FileStore

def baggedKeys : Schema :=
  ⟨0, [⟨some "all", .bag, none, some ⟨0, [⟨none, .tuple, none,
    some ⟨0, [⟨some "k", .int, none, none⟩, ⟨none, .unknown, none, none⟩], [], []⟩⟩], [], []⟩⟩], [], []⟩

/-- The keys in the bags by other names. -/
def spreadKeys : Schema :=
  ⟨2, [⟨some "id", .int, some "number", none⟩, ⟨some "raw", .bytes, none, none⟩],
    [0], [.descending]⟩

/-- One tuple of the keys in the bags. -/
def heldKeys : Schema :=
  ⟨0, [⟨none, .tuple, none, some spreadKeys⟩], [], []⟩

def baggedRows : List Row :=
  [[.bag [[.int 1, .bytes [7]], [.null]]], [.null]]

theorem keyShape_baggedKeys : baggedKeys.keyShape = [.plain .int, .plain .bytes] := by
  simp (disch := decide) [Schema.keyShape, Schema.shape, baggedKeys, Field.shape_bag,
    Field.shape_plain, Field.elementFields, Field.itemFields, Kind.stored]

theorem keyShape_spreadKeys : spreadKeys.keyShape = [.plain .int, .plain .bytes] := by
  simp (disch := decide) [Schema.keyShape, Schema.shape, spreadKeys, Field.shape_plain, Kind.stored]

theorem keyShape_heldKeys : heldKeys.keyShape = [.tuple [.plain .int, .plain .bytes]] := by
  simp (disch := decide) [Schema.keyShape, Schema.shape, heldKeys, spreadKeys, Field.shape_tuple,
    Field.shape_plain, Field.itemFields, Kind.stored]

theorem readTable_of_keyShape_bagged :
    let s := (Storage.writeTable empty "b" baggedKeys baggedRows).2
    Storage.readTable s "b" spreadKeys = .ok [[.int 1, .bytes [7]], [.null, .null]] ∧
      ∃ stored expected,
        Storage.readTable s "b" heldKeys = .error (.config (.keyTypes "b" stored expected)) := by
  intro s
  have hfields : baggedKeys.columns = .ok _ := rfl
  have hne : baggedKeys.fields ≠ [] := List.cons_ne_nil _ _
  have ht : Table.ofBatches baggedKeys [baggedRows] = .ok _ := rfl
  constructor
  · refine ((Storage.readTable_of_keyShape hfields hne rfl ht).2 s "b" rfl).1 ?_
    rw [keyShape_baggedKeys, keyShape_spreadKeys]
  · refine ⟨_, _, ((Storage.readTable_of_keyShape hfields hne rfl ht).2 s "b" rfl).2 ?_⟩
    rw [keyShape_baggedKeys, keyShape_heldKeys]
    nofun

end FileStore

end RangeSort
