import RangeSort.Proofs.Schema.Layout
import RangeSort.Proofs.Schema.Nesting
import RangeSort.Schema.Text

/-! Equality of schemas. Schemas are equal when they are the same without descriptions, and what
is made of a schema does not depend on the descriptions in it. -/

namespace RangeSort

mutual

def Schema.undescribed : Schema → Schema
  | ⟨version, fields, offsets, directions⟩ =>
    ⟨version, undescribedFields fields, offsets, directions⟩
termination_by structural s => s

def undescribedFields : List Field → List Field
  | [] => []
  | f :: fs => f.undescribed :: undescribedFields fs
termination_by structural fs => fs

def Field.undescribed : Field → Field
  | ⟨name, kind, _, nested⟩ => ⟨name, kind, none, undescribedNested nested⟩
termination_by structural f => f

def undescribedNested : Option Schema → Option Schema
  | none => none
  | some s => some s.undescribed
termination_by structural s => s

end

theorem undescribedFields_eq_map (fs : List Field) :
    undescribedFields fs = fs.map Field.undescribed := by
  induction fs with
  | nil => rfl
  | cons f fs ih => rw [undescribedFields, ih, List.map_cons]

@[simp]
theorem Field.name_undescribed (f : Field) : f.undescribed.name = f.name := by
  obtain ⟨name, kind, description, nested⟩ := f
  rfl

@[simp]
theorem Field.kind_undescribed (f : Field) : f.undescribed.kind = f.kind := by
  obtain ⟨name, kind, description, nested⟩ := f
  rfl

theorem Field.label_undescribed (f : Field) : f.undescribed.label = f.label := by
  rw [label, label, f.name_undescribed]

theorem map_kind_undescribed (fs : List Field) :
    (fs.map Field.undescribed).map Field.kind = fs.map Field.kind := by
  simp

theorem Schema.fields_undescribed (s : Schema) :
    s.undescribed.fields = s.fields.map Field.undescribed := by
  obtain ⟨version, fields, offsets, directions⟩ := s
  exact undescribedFields_eq_map fields

mutual

theorem Schema.same_iff : (s t : Schema) → (s.same t = true ↔ s.undescribed = t.undescribed)
  | ⟨_, fields, _, _⟩, ⟨_, fields', _, _⟩ => by
    simp only [Schema.same, Schema.undescribed, Bool.and_eq_true, beq_iff_eq, Schema.mk.injEq,
      sameFields_iff fields fields']
    tauto
termination_by structural s => s

theorem sameFields_iff : (fs gs : List Field) →
    (sameFields fs gs = true ↔ undescribedFields fs = undescribedFields gs)
  | [], [] => iff_of_true rfl rfl
  | [], _ :: _ => iff_of_false nofun nofun
  | _ :: _, [] => iff_of_false nofun nofun
  | f :: fs, g :: gs => by
    simp only [sameFields, undescribedFields, Bool.and_eq_true, List.cons.injEq, f.same_iff g,
      sameFields_iff fs gs]
termination_by structural fs => fs

theorem Field.same_iff : (f g : Field) → (f.same g = true ↔ f.undescribed = g.undescribed)
  | ⟨name, kind, _, nested⟩, ⟨name', kind', _, nested'⟩ => by
    simp only [Field.same, Field.undescribed, Bool.and_eq_true, beq_iff_eq, Field.mk.injEq,
      sameNested_iff nested nested']
    tauto
termination_by structural f => f

theorem sameNested_iff : (s t : Option Schema) →
    (sameNested s t = true ↔ undescribedNested s = undescribedNested t)
  | none, none => iff_of_true rfl rfl
  | none, some _ => iff_of_false nofun nofun
  | some _, none => iff_of_false nofun nofun
  | some s, some t => by
    simp only [sameNested, undescribedNested, Option.some.injEq, s.same_iff t]
termination_by structural s => s

end

mutual

theorem Schema.check_undescribed : (s : Schema) → s.undescribed.check = s.check
  | ⟨_, fields, _, _⟩ => checkFields_undescribed fields
termination_by structural s => s

theorem checkFields_undescribed : (fs : List Field) →
    checkFields (undescribedFields fs) = checkFields fs
  | [] => rfl
  | f :: fs => by
    rw [undescribedFields, checkFields, checkFields, f.check_undescribed,
      checkFields_undescribed fs]
termination_by structural fs => fs

theorem Field.check_undescribed : (f : Field) → f.undescribed.check = f.check
  | ⟨name, kind, _, nested⟩ => checkNested_undescribed (name.getD "") kind nested
termination_by structural f => f

theorem checkNested_undescribed (name : String) (kind : Kind) : (nested : Option Schema) →
    checkNested name kind (undescribedNested nested) = checkNested name kind nested
  | none => rfl
  | some s => by
    cases kind with
    | tuple => exact s.check_undescribed
    | bag =>
      have hkinds : s.undescribed.fields.map Field.kind = s.fields.map Field.kind := by
        rw [s.fields_undescribed, map_kind_undescribed]
      have hempty : s.undescribed.fields.isEmpty = s.fields.isEmpty := by
        rw [s.fields_undescribed, List.isEmpty_map]
      rw [undescribedNested, checkNested, checkNested, hkinds, hempty, s.check_undescribed]
    | _ => rfl
termination_by structural nested => nested

end

mutual

theorem Schema.fieldTexts_undescribed : (s : Schema) → s.undescribed.fieldTexts = s.fieldTexts
  | ⟨_, fields, _, _⟩ => renderFields_undescribed fields
termination_by structural s => s

theorem renderFields_undescribed : (fs : List Field) →
    renderFields (undescribedFields fs) = renderFields fs
  | [] => rfl
  | f :: fs => by
    rw [undescribedFields, renderFields, renderFields, f.render_undescribed,
      renderFields_undescribed fs]
termination_by structural fs => fs

theorem Field.render_undescribed : (f : Field) → f.undescribed.render = f.render
  | ⟨name, kind, _, nested⟩ => by
    simp only [Field.undescribed, Field.render, nestedTexts_undescribed nested]
termination_by structural f => f

theorem nestedTexts_undescribed : (nested : Option Schema) →
    nestedTexts (undescribedNested nested) = nestedTexts nested
  | none => rfl
  | some s => s.fieldTexts_undescribed
termination_by structural nested => nested

end

theorem Schema.render_undescribed (s : Schema) : s.undescribed.render = s.render := by
  rw [render, render, s.fieldTexts_undescribed]

namespace Field

variable (f : Field)

theorem nested_undescribed : f.undescribed.nested = f.nested.map Schema.undescribed := by
  obtain ⟨name, kind, description, nested⟩ := f
  cases nested <;> rfl

theorem itemFields_undescribed :
    f.undescribed.itemFields = f.itemFields.map undescribed := by
  unfold itemFields
  rw [nested_undescribed]
  cases f.nested with
  | none => rfl
  | some s => exact s.fields_undescribed

theorem elementFields_undescribed :
    f.undescribed.elementFields = f.elementFields.map undescribed := by
  unfold elementFields
  rw [itemFields_undescribed]
  cases f.itemFields with
  | nil => rfl
  | cons g gs => exact g.itemFields_undescribed

end Field

theorem columnsFrom_undescribed {fs : List Field}
    (h : ∀ f ∈ fs, f.undescribed.column = f.column) (index : Nat) :
    columnsFrom index (fs.map Field.undescribed) = columnsFrom index fs := by
  induction fs generalizing index with
  | nil => rfl
  | cons f fs ih =>
    rw [List.forall_mem_cons] at h
    rw [List.map_cons, columnsFrom, columnsFrom, h.1, ih h.2, f.name_undescribed]

theorem Field.column_undescribed (f : Field) : f.undescribed.column = f.column := by
  induction f using Field.induction with
  | h f hitems helements =>
    have hkind := f.kind_undescribed
    rcases f.kind.plain_or_nested with hplain | hk | hk
    · rw [column_plain hplain, column_plain (hkind.symm ▸ hplain), f.label_undescribed, hkind]
    · rw [column_tuple hk, column_tuple (hkind.trans hk), f.itemFields_undescribed,
        columnsFrom_undescribed hitems]
    · rw [column_bag hk, column_bag (hkind.trans hk), f.elementFields_undescribed,
        columnsFrom_undescribed helements]

theorem Schema.columns_undescribed (s : Schema) : s.undescribed.columns = s.columns := by
  rw [columns_eq, columns_eq, s.fields_undescribed]
  exact columnsFrom_undescribed (fun f _ => f.column_undescribed) 0

end RangeSort
