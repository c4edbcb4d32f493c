import RangeSort.Proofs.Schema.Acceptance
import RangeSort.Proofs.Table.Typing

/-! The columns of a schema take the rows that it takes, and keep what is cut to its width.
What is read from columns of these types fits the schema, whoever wrote them. -/

namespace RangeSort

open Column

theorem isPlain_columnType {name : String} {kind : Kind} {type : ColumnType}
    (hk : kind.isNested = false) (h : columnType name [] kind = .ok type) :
    IsPlain kind.stored type := by
  cases kind with
  | tuple => cases hk
  | bag => cases hk
  | map => cases h
  | boolean =>
    cases h
    exact ⟨_, _, _, _, picks_boolean, fun _ => rfl, fun _ => rfl,
      fun | _, .boolean cells => ⟨cells, rfl⟩⟩
  | int =>
    cases h
    exact ⟨_, _, _, _, picks_int, fun _ => rfl, fun _ => rfl,
      fun | _, .int32 cells => ⟨cells, rfl⟩⟩
  | long =>
    cases h
    exact ⟨_, _, _, _, picks_long, fun _ => rfl, fun _ => rfl,
      fun | _, .int64 cells => ⟨cells, rfl⟩⟩
  | float =>
    cases h
    exact ⟨_, _, _, _, picks_float, fun _ => rfl, fun _ => rfl,
      fun | _, .float32 cells => ⟨cells, rfl⟩⟩
  | double =>
    cases h
    exact ⟨_, _, _, _, picks_double, fun _ => rfl, fun _ => rfl,
      fun | _, .float64 cells => ⟨cells, rfl⟩⟩
  | text =>
    cases h
    exact ⟨_, _, _, _, picks_text, fun _ => rfl, fun _ => rfl,
      fun | _, .utf8 cells => ⟨cells, rfl⟩⟩
  | bytes =>
    cases h
    exact ⟨_, _, _, _, picks_bytes, fun _ => rfl, fun _ => rfl,
      fun | _, .binary cells => ⟨cells, rfl⟩⟩
  | unknown =>
    cases h
    exact ⟨_, _, _, _, picks_bytes, fun _ => rfl, fun _ => rfl,
      fun | _, .binary cells => ⟨cells, rfl⟩⟩

theorem columnInduction_keeps :
    ColumnInduction (fun f type => KeepsValues type f.Takes (·.cut f))
      fun fs fields => KeepsRows fields (fieldsTake fs) (cutItems · fs) where
  plain f type hf h := by
    have hplain := isPlain_columnType hf h
    refine hplain.keepsValues.congr (fun v => Field.takes_plain hf) fun v hv => ?_
    refine Value.cut_of_plain ?_
    rcases hv with rfl | hv
    · rfl
    · rw [hv]
      exact Kind.isNested_stored hf
  tuple f inner hk h := by
    refine h.struct.congr (fun v => Field.takes_tuple hk) fun v hv => ?_
    rcases hv with rfl | ⟨items, rfl, -⟩ <;> rfl
  bag f inner name nullable hk h := by
    refine h.list.congr (fun v => Field.takes_bag hk) fun v hv => ?_
    rcases hv with rfl | ⟨rows, rfl, -⟩
    · rfl
    · exact congrArg Value.bag (cutRows_eq_map rows _)
  nil := KeepsRows.nil.congr (fun r => iff_of_true (fieldsTake_nil r) trivial) cutItems_nil
  cons f fs name type nullable fields hf hfs :=
    (KeepsRows.cons hf (.null f) hfs).congr (fun _ => fieldsTake_cons) (cutItems_cons f fs)

theorem Field.keepsValues {f : Field} {type : ColumnType} (h : f.column = .ok type) :
    KeepsValues type f.Takes (·.cut f) :=
  columnInduction_keeps.field f h

theorem Schema.keepsRows {s : Schema} {fields : List ColumnField} (h : s.columns = .ok fields) :
    KeepsRows fields s.Takes s.cut :=
  columnInduction_keeps.schema s h

/-- Whatever is read from columns of the types of fields fits the fields. -/
theorem columnInduction_typed :
    ColumnInduction (fun f type => ∀ c : Column, c.HasType type → ∀ v, .ok v ∈ c.cells → f.Fits v)
      fun fs fields => ∀ columns, HaveTypes columns fields → ∀ length row,
        .ok row ∈ acrossColumns length (cellsOfAll columns) → fieldsFit fs row where
  plain f type hf h c hc v hv :=
    (Field.fits_plain hf).mpr ((isPlain_columnType hf h).kind_of_mem_cells hc hv)
  tuple f inner hk h c hc v hv := by
    cases hc with
    | struct present hchildren =>
      refine (Field.fits_tuple hk).mpr ((of_mem_tupleCells hv).imp id ?_)
      rintro ⟨row, rfl, hrow⟩
      exact ⟨row, rfl, h _ hchildren _ row hrow⟩
  bag f inner name nullable hk h c hc v hv := by
    cases hc with
    | list slots _ _ hitems =>
      refine (Field.fits_bag hk).mpr ((of_mem_list_cells hitems hv).imp id ?_)
      rintro ⟨rows, rfl, hrows⟩
      refine ⟨rows, rfl, fun r hr => ?_⟩
      obtain ⟨length, children, hchildren, hr⟩ := hrows r hr
      exact h children hchildren length r hr
  nil columns hcolumns length row hrow := by
    cases hcolumns
    exact eq_nil_of_mem_acrossColumns_nil hrow
  cons f fs name type nullable fields hf hfs columns hcolumns length row hrow := by
    cases hcolumns with
    | cons _ _ hc hcs =>
      obtain ⟨v, rest, rfl, hv, hrest⟩ := of_mem_acrossColumns_cons hrow
      refine ⟨List.cons_ne_nil v rest, ?_, hfs _ hcs length rest hrest⟩
      rcases hv with rfl | hv
      · exact f.fits_null
      · exact hf _ hc v hv

end RangeSort
