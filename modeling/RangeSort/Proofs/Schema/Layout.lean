import RangeSort.Proofs.Except
import RangeSort.Schema.Columns

/-! How the columns of a schema are laid out. A field has a plain column, or the fields of its
tuples make up the columns inside; whatever respects this holds of all columns. -/

namespace RangeSort

theorem Kind.plain_or_nested (kind : Kind) :
    kind.isNested = false ∨ kind = .tuple ∨ kind = .bag := by
  cases kind <;> simp [isNested]

/-- The declared fields of the tuples in a field. There are none without a nested schema. -/
def Field.itemFields (f : Field) : List Field :=
  match f.nested with
  | none => []
  | some s => s.fields

/-- The declared fields of the tuples in the bags in a field. -/
def Field.elementFields (f : Field) : List Field :=
  match f.itemFields with
  | [] => []
  | g :: _ => g.itemFields

theorem Schema.columns_eq (s : Schema) : s.columns = columnsFrom 0 s.fields := by
  obtain ⟨version, fields, offsets, directions⟩ := s
  rfl

theorem columnsFrom_cons_eq_ok {index : Nat} {f : Field} {fs : List Field}
    {fields : List ColumnField} :
    columnsFrom index (f :: fs) = .ok fields ↔
      ∃ type rest, f.column = .ok type ∧ columnsFrom (index + 1) fs = .ok rest ∧
        fields = .mk (columnName index f.name) type true :: rest := by
  rw [columnsFrom]
  simp only [Except.bind_eq_ok]
  constructor
  · rintro ⟨type, htype, rest, hrest, h⟩
    cases h
    exact ⟨type, rest, htype, hrest, rfl⟩
  · rintro ⟨type, rest, htype, hrest, rfl⟩
    exact ⟨type, htype, rest, hrest, rfl⟩

theorem columnsFrom_length {index : Nat} {fs : List Field} {fields : List ColumnField}
    (h : columnsFrom index fs = .ok fields) : fields.length = fs.length := by
  induction fs generalizing index fields with
  | nil =>
    cases h
    rfl
  | cons f fs ih =>
    obtain ⟨type, rest, -, hrest, rfl⟩ := columnsFrom_cons_eq_ok.mp h
    exact congrArg (· + 1) (ih hrest)

theorem column_of_columnsFrom {index : Nat} {f : Field} {field : ColumnField}
    (h : columnsFrom index [f] = .ok [field]) : f.column = .ok field.type := by
  obtain ⟨type, rest, htype, -, hfields⟩ := columnsFrom_cons_eq_ok.mp h
  cases hfields
  exact htype

theorem exists_column_of_columnsFrom {index : Nat} {fs : List Field} {fields : List ColumnField}
    (h : columnsFrom index fs = .ok fields) : ∀ c ∈ fields, ∃ f : Field, f.column = .ok c.type := by
  induction fs generalizing index fields with
  | nil =>
    cases h
    exact fun _ hc => absurd hc List.not_mem_nil
  | cons f fs ih =>
    obtain ⟨type, rest, htype, hrest, rfl⟩ := columnsFrom_cons_eq_ok.mp h
    exact List.forall_mem_cons.mpr ⟨⟨f, htype⟩, ih hrest⟩

namespace Field

theorem column_plain {f : Field} (hf : f.kind.isNested = false) :
    f.column = columnType f.label [] f.kind := by
  obtain ⟨name, kind, description, nested⟩ := f
  cases kind <;> first | rfl | cases hf

theorem tupleColumns_eq (f : Field) : tupleColumns f.nested = columnsFrom 0 f.itemFields := by
  obtain ⟨name, kind, description, nested⟩ := f
  match nested with
  | none => rfl
  | some ⟨_, _, _, _⟩ => rfl

theorem elementColumns_eq (f : Field) :
    elementColumns f.nested = columnsFrom 0 f.elementFields := by
  obtain ⟨name, kind, description, nested⟩ := f
  match nested with
  | none => rfl
  | some ⟨_, [], _, _⟩ => rfl
  | some ⟨_, ⟨gname, gkind, gdescription, gnested⟩ :: _, _, _⟩ =>
    exact tupleColumns_eq ⟨gname, gkind, gdescription, gnested⟩

theorem column_tuple {f : Field} (hf : f.kind = .tuple) :
    f.column = (columnsFrom 0 f.itemFields).map .struct := by
  rw [← tupleColumns_eq]
  obtain ⟨name, kind, description, nested⟩ := f
  cases hf
  rw [column]
  cases tupleColumns nested <;> rfl

theorem column_bag {f : Field} (hf : f.kind = .bag) :
    f.column = (columnsFrom 0 f.elementFields).map fun inner =>
      .list (.mk "item" (.struct inner) true) := by
  rw [← elementColumns_eq]
  obtain ⟨name, kind, description, nested⟩ := f
  cases hf
  rw [column]
  cases elementColumns nested <;> rfl

theorem sizeOf_itemFields (f : Field) : sizeOf f.itemFields < sizeOf f := by
  obtain ⟨name, kind, description, nested⟩ := f
  rw [Field.mk.sizeOf_spec]
  match nested with
  | none =>
    simp only [itemFields, List.nil.sizeOf_spec, Option.none.sizeOf_spec]
    omega
  | some ⟨version, fields, offsets, directions⟩ =>
    simp only [itemFields, Option.some.sizeOf_spec, Schema.mk.sizeOf_spec]
    omega

theorem sizeOf_elementFields (f : Field) : sizeOf f.elementFields < sizeOf f := by
  have hitems := f.sizeOf_itemFields
  unfold elementFields
  split
  · rename_i h
    rwa [h] at hitems
  · rename_i g _ h
    have := g.sizeOf_itemFields
    rw [h, List.cons.sizeOf_spec] at hitems
    omega

theorem sizeOf_lt_of_mem_itemFields {f g : Field} (h : g ∈ f.itemFields) : sizeOf g < sizeOf f :=
  Nat.lt_trans (List.sizeOf_lt_of_mem h) f.sizeOf_itemFields

theorem sizeOf_lt_of_mem_elementFields {f g : Field} (h : g ∈ f.elementFields) :
    sizeOf g < sizeOf f :=
  Nat.lt_trans (List.sizeOf_lt_of_mem h) f.sizeOf_elementFields

/-- What holds of a field when it holds of the fields inside. -/
theorem induction {P : Field → Prop}
    (h : ∀ f : Field, (∀ g ∈ f.itemFields, P g) → (∀ g ∈ f.elementFields, P g) → P f)
    (f : Field) : P f :=
  h f (fun g _ => induction h g) (fun g _ => induction h g)
termination_by sizeOf f
decreasing_by
  · exact sizeOf_lt_of_mem_itemFields ‹_›
  · exact sizeOf_lt_of_mem_elementFields ‹_›

end Field

/-- What holds of a field and its column when it holds of those inside. -/
structure ColumnInduction (P : Field → ColumnType → Prop)
    (Q : List Field → List ColumnField → Prop) : Prop where
  plain (f : Field) (type : ColumnType) :
    f.kind.isNested = false → columnType f.label [] f.kind = .ok type → P f type
  tuple (f : Field) (inner : List ColumnField) :
    f.kind = .tuple → Q f.itemFields inner → P f (.struct inner)
  bag (f : Field) (inner : List ColumnField) (name : String) (nullable : Bool) :
    f.kind = .bag → Q f.elementFields inner → P f (.list (.mk name (.struct inner) nullable))
  nil : Q [] []
  cons (f : Field) (fs : List Field) (name : String) (type : ColumnType) (nullable : Bool)
    (fields : List ColumnField) :
    P f type → Q fs fields → Q (f :: fs) (.mk name type nullable :: fields)

namespace ColumnInduction

variable {P : Field → ColumnType → Prop} {Q : List Field → List ColumnField → Prop}

theorem fieldsOf (h : ColumnInduction P Q) {fs : List Field}
    (hfs : ∀ f ∈ fs, ∀ {type : ColumnType}, f.column = .ok type → P f type) {index : Nat}
    {fields : List ColumnField} (hfields : columnsFrom index fs = .ok fields) : Q fs fields := by
  induction fs generalizing index fields with
  | nil =>
    cases hfields
    exact h.nil
  | cons f fs ih =>
    rw [List.forall_mem_cons] at hfs
    obtain ⟨type, rest, htype, hrest, rfl⟩ := columnsFrom_cons_eq_ok.mp hfields
    exact h.cons f fs _ type _ rest (hfs.1 htype) (ih hfs.2 hrest)

theorem field (h : ColumnInduction P Q) (f : Field) {type : ColumnType}
    (hf : f.column = .ok type) : P f type := by
  induction f using Field.induction generalizing type with
  | h f hitems helements =>
    rcases f.kind.plain_or_nested with hplain | hk | hk
    · rw [Field.column_plain hplain] at hf
      exact h.plain f type hplain hf
    · rw [Field.column_tuple hk] at hf
      obtain ⟨inner, hinner, rfl⟩ := Except.map_eq_ok.mp hf
      exact h.tuple f inner hk (h.fieldsOf hitems hinner)
    · rw [Field.column_bag hk] at hf
      obtain ⟨inner, hinner, rfl⟩ := Except.map_eq_ok.mp hf
      exact h.bag f inner _ _ hk (h.fieldsOf helements hinner)

theorem schema (h : ColumnInduction P Q) (s : Schema) {fields : List ColumnField}
    (hs : s.columns = .ok fields) : Q s.fields fields := by
  rw [Schema.columns_eq] at hs
  exact h.fieldsOf (fun f _ _ => h.field f) hs

end ColumnInduction

end RangeSort
