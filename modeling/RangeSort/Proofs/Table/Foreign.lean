import RangeSort.Proofs.Table.Rows
import RangeSort.Proofs.Table.Typing
import RangeSort.Table.Storage

/-! Tables written by anyone. Rows that pass the check of the types fit the schema they are
read with. -/

namespace RangeSort

/-- Every batch holds columns of the stated types. -/
def Table.WellTyped (t : Table) : Prop :=
  ∀ b ∈ t.batches, Column.HaveTypes b.columns t.fields

/-- All tables that are found hold what they state. -/
def Storage.WellTyped {σ : Type} [Storage σ] (s : σ) : Prop :=
  ∀ (location : String) (t : Table), read s location = .ok t → t.WellTyped

open Column

theorem keyTypes_eq_map {fields : List ColumnField}
    (h : ∀ name item nullable, fields ≠ [.mk name (.list item) nullable]) :
    keyTypes fields = fields.map ColumnField.type := by
  unfold keyTypes
  split
  · exact absurd rfl (h _ _ _)
  · rfl

/-- Whether a column may hold nulls is no part of its type, and nor is its name. -/
theorem Column.HaveTypes.of_unnamed_types {columns : List Column} {stored fields : List ColumnField}
    (h : HaveTypes columns stored)
    (ha : (stored.map ColumnField.type).map ColumnType.unnamed =
      (fields.map ColumnField.type).map ColumnType.unnamed) : HaveTypes columns fields := by
  induction stored generalizing columns fields with
  | nil =>
    cases fields with
    | nil => exact h
    | cons => cases ha
  | cons f stored ih =>
    cases h with
    | @cons _ _ type _ _ _ hcolumn hcolumns =>
      cases fields with
      | nil => cases ha
      | cons g fields =>
        obtain ⟨name, expected, nullable⟩ := g
        obtain ⟨htype, hrest⟩ := List.cons.inj ha
        exact .cons name nullable (hcolumn.of_unnamed type htype) (ih hcolumns hrest)

namespace Batch

variable {schema : Schema} {fields stored : List ColumnField} {b : Batch} {rows : List Row}

theorem fits_of_haveTypes (hs : ¬ schema.IsLoneBag) (hfields : schema.columns = .ok fields)
    (hb : HaveTypes b.columns fields) (h : b.rows = .ok rows) :
    ∀ r ∈ rows, fieldsFit schema.fields r := by
  have hlist : ∀ slots items, b.columns ≠ [.list slots items] := by
    intro slots items hcolumns
    rw [hcolumns] at hb
    cases hb with
    | cons name nullable hcolumn hnil =>
      cases hnil
      cases hcolumn
      exact hs (Schema.isLoneBag_of_columns hfields)
  rw [rows_eq_of_not_list hlist] at h
  intro r hr
  obtain ⟨row, hrow, rfl⟩ := (Except.exists_of_mapM_eq_ok h).2 r hr
  exact columnInduction_typed.schema schema hfields _ hb _ r hrow

/-- A single column of bags stands for the rows in its bags. -/
theorem fits_of_bags {slots : List ListSlot} {items : Column} {inner : List ColumnField}
    (hfields : schema.columns = .ok fields) (hitems : items.HasType (.struct inner))
    (ha : (inner.map ColumnField.type).map ColumnType.unnamed =
      (fields.map ColumnField.type).map ColumnType.unnamed)
    (hcolumns : b.columns = [.list slots items]) (h : b.rows = .ok rows) :
    ∀ r ∈ rows, fieldsFit schema.fields r := by
  simp only [Batch.rows, hcolumns] at h
  obtain ⟨bags, hbags, h⟩ := Except.bind_eq_ok.mp h
  cases h
  intro r hr
  obtain ⟨bag, hbag, hr⟩ := List.mem_flatMap.mp hr
  obtain ⟨cell, hcell, rfl⟩ := (Except.exists_of_mapM_eq_ok hbags).2 bag hbag
  rcases of_mem_list_cells hitems hcell with rfl | ⟨items, rfl, hrows⟩
  · cases hr
  · obtain ⟨length, children, hchildren, hmem⟩ := hrows r hr
    exact columnInduction_typed.schema schema hfields children 
      (hchildren.of_unnamed_types ha) length r hmem

theorem fits_of_keyTypes (hs : ¬ schema.IsLoneBag) (hfields : schema.columns = .ok fields)
    (hb : HaveTypes b.columns stored)
    (ha : (keyTypes stored).map ColumnType.unnamed = (keyTypes fields).map ColumnType.unnamed)
    (h : b.rows = .ok rows) : ∀ r ∈ rows, fieldsFit schema.fields r := by
  have hkeys : keyTypes fields = fields.map ColumnField.type := by
    apply keyTypes_eq_map
    rintro name item nullable rfl
    exact hs (Schema.isLoneBag_of_columns hfields)
  rw [hkeys] at ha
  -- The check looks through a list of structs only, the reader through every single list. A
  -- list of anything else has a type that no key column has.
  unfold keyTypes at ha
  split at ha
  · cases hcolumns : b.columns with
    | nil =>
      rw [hcolumns] at hb
      cases hb
    | cons c cs =>
      rw [hcolumns] at hb
      cases hb with
      | cons _ _ hcolumn hnil =>
        cases hnil
        cases hcolumn with
        | list slots _ _ hitems => exact fits_of_bags hfields hitems ha hcolumns h
  · exact fits_of_haveTypes hs hfields (hb.of_unnamed_types ha) h

end Batch

variable [TypeEquality] [LawfulTypeEquality]

theorem Table.fits_of_rows {schema : Schema} (hs : ¬ schema.IsLoneBag) {t : Table}
    (ht : t.WellTyped) {location : String} {rows : List Row}
    (h : t.rows location schema = .ok rows) : ∀ r ∈ rows, fieldsFit schema.fields r := by
  obtain ⟨_, hcheck, h⟩ := Except.bind_eq_ok.mp h
  obtain ⟨fields, hfields, hcheck⟩ := Except.bind_eq_ok.mp hcheck
  obtain ⟨batches, hbatches, h⟩ := Except.bind_eq_ok.mp h
  rw [Except.mapError_eq_ok] at hfields hbatches
  cases h
  split at hcheck
  · rename_i ha
    intro r hr
    obtain ⟨rows, hrows, hr⟩ := List.mem_flatten.mp hr
    obtain ⟨b, hb, hread⟩ := (Except.exists_of_mapM_eq_ok hbatches).2 rows hrows
    have hkeys := (typesAgree_iff (Schema.ofField_of_keyTypes hfields)).mp ha
    exact Batch.fits_of_keyTypes hs hfields (ht b hb) hkeys hread r hr
  · cases hcheck

theorem Storage.fits_of_readTable {σ : Type} [Storage σ] {schema : Schema}
    (hs : ¬ schema.IsLoneBag) {s : σ} (hstore : WellTyped s) {location : String} {rows : List Row}
    (h : readTable s location schema = .ok rows) : ∀ r ∈ rows, fieldsFit schema.fields r := by
  obtain ⟨t, ht, h⟩ := Except.bind_eq_ok.mp h
  exact Table.fits_of_rows hs (hstore location t ht) h

end RangeSort
