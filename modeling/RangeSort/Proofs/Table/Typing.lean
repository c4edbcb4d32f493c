import RangeSort.Proofs.Table.Codec
import RangeSort.Proofs.Table.TypeEquality

/-! Columns of stated types, whoever wrote them, and what can be read from them. -/

namespace RangeSort

namespace Column

mutual

/-- Columns as decoded from a table that states their types. -/
inductive HasType : Column → ColumnType → Prop
  | boolean (cells : List (Option Bool)) : HasType (.boolean cells) .boolean
  | int32 (cells : List (Option Int32)) : HasType (.int32 cells) .int32
  | int64 (cells : List (Option Int64)) : HasType (.int64 cells) .int64
  | float32 (cells : List (Option UInt32)) : HasType (.float32 cells) .float32
  | float64 (cells : List (Option UInt64)) : HasType (.float64 cells) .float64
  | utf8 (cells : List (Option String)) : HasType (.utf8 cells) .utf8
  | binary (cells : List (Option Octets)) : HasType (.binary cells) .binary
  | struct (present : List Bool) {children : List Column} {fields : List ColumnField}
      (h : HaveTypes children fields) : HasType (.struct present children) (.struct fields)
  | list (slots : List ListSlot) {items : Column} {type : ColumnType} (name : String)
      (nullable : Bool) (h : HasType items type) :
      HasType (.list slots items) (.list (.mk name type nullable))
  | other (name : String) (length : Nat) : HasType (.other (.other name) length) (.other name)

inductive HaveTypes : List Column → List ColumnField → Prop
  | nil : HaveTypes [] []
  | cons {column : Column} {columns : List Column} {type : ColumnType} {fields : List ColumnField}
      (name : String) (nullable : Bool) (h : column.HasType type) (hs : HaveTypes columns fields) :
      HaveTypes (column :: columns) (.mk name type nullable :: fields)

end

mutual

/-- Columns have all types that differ from theirs in names only. -/
theorem HasType.of_unnamed : (stored : ColumnType) → {type : ColumnType} → {c : Column} →
    c.HasType stored → stored.unnamed = type.unnamed → c.HasType type
  | .struct fields, type, c, h, ha => by
    cases h with
    | struct present hfields =>
      cases type with
      | struct expected =>
        exact .struct present (hfields.of_unnamed fields (ColumnType.struct.inj ha))
      | _ => cases ha
  | .list (.mk name item nullable), type, c, h, ha => by
    cases h with
    | list slots _ _ hitems =>
      cases type with
      | list expected =>
        obtain ⟨name', item', nullable'⟩ := expected
        obtain ⟨-, hitem, -⟩ := ColumnField.mk.inj (ColumnType.list.inj ha)
        exact .list slots name' nullable' (hitems.of_unnamed item hitem)
      | _ => cases ha
  | .other name, type, c, h, ha => by
    cases type with
    | other name' =>
      cases ha
      exact h
    | _ => cases ha
  | .boolean, type, c, h, ha | .int32, type, c, h, ha | .int64, type, c, h, ha
  | .float32, type, c, h, ha | .float64, type, c, h, ha | .utf8, type, c, h, ha
  | .binary, type, c, h, ha => by
    cases type <;> first | exact h | cases ha
termination_by structural stored => stored

theorem HaveTypes.of_unnamed : (stored : List ColumnField) → {fields : List ColumnField} →
    {columns : List Column} → HaveTypes columns stored →
    unnamedFields stored = unnamedFields fields → HaveTypes columns fields
  | [], fields, columns, h, ha => by
    cases fields with
    | nil => exact h
    | cons => cases ha
  | .mk name type nullable :: stored, fields, columns, h, ha => by
    cases h with
    | cons _ _ hcolumn hcolumns =>
      cases fields with
      | nil => cases ha
      | cons f fields =>
        obtain ⟨name', type', nullable'⟩ := f
        obtain ⟨hf, hfs⟩ := List.cons.inj ha
        obtain ⟨-, htype, -⟩ := ColumnField.mk.inj hf
        exact .cons name' nullable' (hcolumn.of_unnamed type htype)
          (hcolumns.of_unnamed stored hfs)
termination_by structural stored => stored

end

/-- Columns of a plain type hold the values of a kind. -/
def IsPlain (kind : Kind) (type : ColumnType) : Prop :=
  ∃ (α : Type) (pick : Value → Option α) (wrap : α → Value) (column : List (Option α) → Column),
    Picks kind pick wrap ∧
    (∀ values, encode type values = (pickCells type pick values).map column) ∧
    (∀ cells, (column cells).cells = plainCells wrap cells) ∧
    ∀ c : Column, c.HasType type → ∃ cells, c = column cells

theorem IsPlain.keepsValues {kind : Kind} {type : ColumnType} (h : IsPlain kind type) :
    KeepsValues type (fun v => v = .null ∨ v.kind = kind) id := by
  obtain ⟨α, pick, wrap, column, hpicks, hencode, hcells, -⟩ := h
  exact hpicks.keepsValues hencode hcells

theorem IsPlain.kind_of_mem_cells {kind : Kind} {type : ColumnType} (h : IsPlain kind type)
    {c : Column} (hc : c.HasType type) {v : Value} (hv : .ok v ∈ c.cells) :
    v = .null ∨ v.kind = kind := by
  obtain ⟨α, pick, wrap, column, hpicks, -, hcells, hcolumn⟩ := h
  obtain ⟨cells, rfl⟩ := hcolumn c hc
  rw [hcells] at hv
  obtain ⟨cell, -, hcell⟩ := List.mem_map.mp hv
  cases hcell
  cases cell with
  | none => exact .inl rfl
  | some a => exact .inr (hpicks.kind_wrap a)

theorem of_mem_acrossColumns_cons {length : Nat} {cells : List Cell} {columns : List (List Cell)}
    {row : Row} (h : .ok row ∈ acrossColumns length (cells :: columns)) :
    ∃ v rest, row = v :: rest ∧ (v = .null ∨ .ok v ∈ cells) ∧
      .ok rest ∈ acrossColumns length columns := by
  induction length generalizing cells columns with
  | zero => cases h
  | succ length ih =>
    rcases List.mem_cons.mp h with h | h
    · rw [List.mapM_cons] at h
      obtain ⟨v, hv, h⟩ := Except.bind_eq_ok.mp h.symm
      obtain ⟨rest, hrest, h⟩ := Except.bind_eq_ok.mp h
      cases h
      refine ⟨v, rest, rfl, ?_, List.mem_cons.mpr (.inl hrest.symm)⟩
      cases cells with
      | nil =>
        cases hv
        exact .inl rfl
      | cons cell cells => exact .inr (List.mem_cons.mpr (.inl hv.symm))
    · obtain ⟨v, rest, rfl, hv, hrest⟩ := ih h
      exact ⟨v, rest, rfl, hv.imp id List.mem_of_mem_tail, List.mem_cons_of_mem _ hrest⟩

theorem eq_nil_of_mem_acrossColumns_nil {length : Nat} {row : Row}
    (h : .ok row ∈ acrossColumns length []) : row = [] := by
  induction length with
  | zero => cases h
  | succ length ih =>
    rcases List.mem_cons.mp h with h | h
    · cases h
      rfl
    · exact ih h

theorem of_mem_tupleCells {present : List Bool} {rows : List (Except SchemaFault Row)} {v : Value}
    (h : .ok v ∈ present.zipWith tupleCell rows) :
    v = .null ∨ ∃ row, v = .tuple row ∧ .ok row ∈ rows := by
  rw [← List.map_uncurry_zip_eq_zipWith] at h
  obtain ⟨⟨shown, row⟩, hmem, hcell⟩ := List.mem_map.mp h
  have hrow : row ∈ rows := (List.of_mem_zip hmem).2
  cases shown with
  | false =>
    cases hcell
    exact .inl rfl
  | true =>
    obtain ⟨items, rfl, rfl⟩ := Except.map_eq_ok.mp hcell
    exact .inr ⟨items, rfl, hrow⟩

theorem eq_of_element {cell : Cell} {row : Row} (h : element cell = .ok row) :
    cell = .ok (.tuple row) := by
  obtain ⟨v, rfl, hv⟩ := Except.bind_eq_ok.mp h
  cases v <;> cases hv
  rfl

theorem of_mem_listCells {slots : List ListSlot} {items : List Cell} {v : Value}
    (h : .ok v ∈ listCells slots items) :
    v = .null ∨ ∃ rows, v = .bag rows ∧ ∀ r ∈ rows, .ok (.tuple r) ∈ items := by
  induction slots generalizing items with
  | nil => cases h
  | cons slot slots ih =>
    rcases List.mem_cons.mp h with h | h
    · split at h
      · obtain ⟨rows, hrows, rfl⟩ := Except.map_eq_ok.mp h.symm
        refine .inr ⟨rows, rfl, fun r hr => ?_⟩
        obtain ⟨cell, hcell, hr⟩ := (Except.exists_of_mapM_eq_ok hrows).2 r hr
        rw [← eq_of_element hr]
        exact List.mem_of_mem_take hcell
      · cases h
        exact .inl rfl
    · refine (ih h).imp id fun ⟨rows, hv, hrows⟩ => ⟨rows, hv, fun r hr => ?_⟩
      exact List.mem_of_mem_drop (hrows r hr)

/-- The rows in a column of bags lie across the columns of its items. -/
theorem of_mem_list_cells {slots : List ListSlot} {items : Column} {inner : List ColumnField}
    (hitems : items.HasType (.struct inner)) {v : Value}
    (h : .ok v ∈ (Column.list slots items).cells) :
    v = .null ∨ ∃ rows, v = .bag rows ∧ ∀ r ∈ rows, ∃ length children,
      HaveTypes children inner ∧ .ok r ∈ acrossColumns length (cellsOfAll children) := by
  cases hitems with
  | @struct present children _ hchildren =>
    refine (of_mem_listCells h).imp id fun ⟨rows, hv, hrows⟩ => ⟨rows, hv, fun r hr => ?_⟩
    obtain hnull | ⟨row, hrow, hmem⟩ := of_mem_tupleCells (hrows r hr)
    · cases hnull
    · cases hrow
      exact ⟨present.length, children, hchildren, hmem⟩

end Column

end RangeSort
