import RangeSort.Proofs.Schema.Conformity
import RangeSort.Proofs.Schema.Layout
import RangeSort.Proofs.Table.TypeEquality

/-! The shapes of fields, which are their types without names. The columns of two fields have the
same type but for names when the fields have the same shape, and only then. -/

namespace RangeSort

/-- The types of fields with all that is no part of them left out. -/
inductive Shape where
  | plain (kind : Kind)
  | tuple (items : List Shape)
  | bag (items : List Shape)

/-- A bag has the shape of its element. What has no layout has no items. -/
def Field.shape (f : Field) : Shape :=
  match f.kind with
  | .tuple => .tuple (f.itemFields.attach.map fun g => g.1.shape)
  | .bag => .bag (f.elementFields.attach.map fun g => g.1.shape)
  | kind => .plain kind.stored
termination_by sizeOf f
decreasing_by
  · exact sizeOf_lt_of_mem_itemFields g.2
  · exact sizeOf_lt_of_mem_elementFields g.2

def Schema.shape (s : Schema) : List Shape :=
  s.fields.map Field.shape

/-- A schema that is a single bag has the shape of the element. -/
def Schema.keyShape (s : Schema) : List Shape :=
  match s.shape with
  | [.bag items] => items
  | shape => shape

namespace Field

variable {f : Field}

theorem shape_plain (hf : f.kind.isNested = false) : f.shape = .plain f.kind.stored := by
  obtain ⟨name, kind, description, nested⟩ := f
  rw [shape]
  cases kind <;> first | rfl | cases hf

theorem shape_tuple (hf : f.kind = .tuple) : f.shape = .tuple (f.itemFields.map shape) := by
  rw [shape, hf]
  exact congrArg Shape.tuple List.attach_map_val

theorem shape_bag (hf : f.kind = .bag) : f.shape = .bag (f.elementFields.map shape) := by
  rw [shape, hf]
  exact congrArg Shape.bag (List.attach_map_val ..)

end Field

/-- The kind of the values in a plain column. -/
def ColumnType.plainKind : ColumnType → Option Kind
  | .boolean => some .boolean
  | .int32 => some .int
  | .int64 => some .long
  | .float32 => some .float
  | .float64 => some .double
  | .utf8 => some .text
  | .binary => some .bytes
  | .struct _ | .list _ | .other _ => none

theorem ColumnType.unnamed_plain {t u : ColumnType}
    (h : t.plainKind.isSome = true ∨ u.plainKind.isSome = true) :
    t.unnamed = u.unnamed ↔ t.plainKind = u.plainKind := by
  cases t <;> cases u <;> simp_all [unnamed, plainKind]

theorem plainKind_of_columnType {kind : Kind} {name : String} {t : ColumnType}
    (hk : kind.isNested = false) (h : columnType name [] kind = .ok t) :
    t.plainKind = some kind.stored := by
  cases kind with
  | tuple | bag => cases hk
  | map => cases h
  | _ =>
    cases h
    rfl

/-- A field and its column are plain, or both are of tuples, or both of bags. -/
theorem Field.shape_and_column {f : Field} {t : ColumnType} (h : f.column = .ok t) :
    (∃ kind, f.shape = .plain kind ∧ t.plainKind = some kind) ∨
    (∃ inner, f.shape = .tuple (f.itemFields.map shape) ∧
      columnsFrom 0 f.itemFields = .ok inner ∧ t = .struct inner) ∨
    ∃ inner, f.shape = .bag (f.elementFields.map shape) ∧
      columnsFrom 0 f.elementFields = .ok inner ∧ t = .list (.mk "item" (.struct inner) true) := by
  rcases f.kind.plain_or_nested with hplain | hk | hk
  · rw [column_plain hplain] at h
    exact .inl ⟨_, shape_plain hplain, plainKind_of_columnType hplain h⟩
  · rw [column_tuple hk] at h
    obtain ⟨inner, hinner, rfl⟩ := Except.map_eq_ok.mp h
    exact .inr (.inl ⟨inner, shape_tuple hk, hinner, rfl⟩)
  · rw [column_bag hk] at h
    obtain ⟨inner, hinner, rfl⟩ := Except.map_eq_ok.mp h
    exact .inr (.inr ⟨inner, shape_bag hk, hinner, rfl⟩)

/-- The column of the field has the type, but for names, of those of fields of its shape and no
others. -/
def Field.TypedByShape (f : Field) : Prop :=
  ∀ {g : Field} {t u : ColumnType}, f.column = .ok t → g.column = .ok u →
    (t.unnamed = u.unnamed ↔ f.shape = g.shape)

theorem unnamedFields_iff {fs gs : List Field} (h : ∀ f ∈ fs, f.TypedByShape) {i j : Nat}
    {ts us : List ColumnField} (hts : columnsFrom i fs = .ok ts) (hus : columnsFrom j gs = .ok us) :
    unnamedFields ts = unnamedFields us ↔ fs.map Field.shape = gs.map Field.shape := by
  induction fs generalizing gs i j ts us with
  | nil =>
    cases hts
    cases gs with
    | nil =>
      cases hus
      simp
    | cons g gs =>
      obtain ⟨_, _, -, -, rfl⟩ := columnsFrom_cons_eq_ok.mp hus
      simp [unnamedFields]
  | cons f fs ih =>
    rw [List.forall_mem_cons] at h
    obtain ⟨t, ts, ht, hts', rfl⟩ := columnsFrom_cons_eq_ok.mp hts
    cases gs with
    | nil =>
      cases hus
      simp [unnamedFields]
    | cons g gs =>
      obtain ⟨u, us, hu, hus', rfl⟩ := columnsFrom_cons_eq_ok.mp hus
      simp [unnamedFields, ColumnField.unnamed, h.1 ht hu, ih h.2 hts' hus']

theorem Field.typedByShape (f : Field) : f.TypedByShape := by
  induction f using Field.induction with
  | h f hitems helements =>
    intro g t u ht hu
    rcases shape_and_column ht with ⟨k, hf, hk⟩ | ⟨ts, hf, hts, rfl⟩ | ⟨ts, hf, hts, rfl⟩
    · rw [ColumnType.unnamed_plain (.inl (Option.isSome_of_eq_some hk)), hk, hf]
      rcases shape_and_column hu with ⟨l, hg, hl⟩ | ⟨us, hg, -, rfl⟩ | ⟨us, hg, -, rfl⟩
      · rw [hl, hg, Option.some.injEq, Shape.plain.injEq]
      · rw [hg]
        exact iff_of_false nofun nofun
      · rw [hg]
        exact iff_of_false nofun nofun
    · rcases shape_and_column hu with ⟨l, hg, hl⟩ | ⟨us, hg, hus, rfl⟩ | ⟨us, hg, -, rfl⟩
      · rw [ColumnType.unnamed_plain (.inr (Option.isSome_of_eq_some hl)), hl, hf, hg]
        exact iff_of_false nofun nofun
      · rw [hf, hg, Shape.tuple.injEq, ← unnamedFields_iff hitems hts hus, ColumnType.unnamed,
          ColumnType.unnamed, ColumnType.struct.injEq]
      · rw [hf, hg]
        exact iff_of_false nofun nofun
    · rcases shape_and_column hu with ⟨l, hg, hl⟩ | ⟨us, hg, -, rfl⟩ | ⟨us, hg, hus, rfl⟩
      · rw [ColumnType.unnamed_plain (.inr (Option.isSome_of_eq_some hl)), hl, hf, hg]
        exact iff_of_false nofun nofun
      · rw [hf, hg]
        exact iff_of_false nofun nofun
      · rw [hf, hg, Shape.bag.injEq, ← unnamedFields_iff helements hts hus]
        simp [ColumnType.unnamed, ColumnField.unnamed]

end RangeSort
