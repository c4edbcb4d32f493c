import RangeSort.Proofs.Schema.Nesting

/-! Declared layouts as schemas. A declaration is refused for a bag in it that is declared to
hold anything but one tuple. Otherwise its schema shows at every level what is declared there. -/

namespace RangeSort

namespace LogicalField

/-- The layout below a field. A missing one counts as empty, and only tuples and bags have one. -/
def layout (f : LogicalField) : Option (List LogicalField) :=
  if f.kind.isNested then some (f.nested.getD []) else none

/-- A bag with a layout that is anything but one tuple. -/
def Misdeclared (f : LogicalField) : Prop :=
  f.kind = .bag ∧ ∃ inner, f.nested = some inner ∧ inner.map kind ≠ [.tuple]

/-- What is said of a misdeclared bag. -/
def elementFault (f : LogicalField) : SchemaFault :=
  .bagElement (f.name.getD "") (f.nested.getD []).length

end LogicalField

/-- The fields declared at the level that the offsets lead to. -/
def declaredLevel : List Nat → List LogicalField → Option (List LogicalField)
  | [], fs => some fs
  | i :: path, fs => (fs[i]?.bind LogicalField.layout).bind (declaredLevel path)

/-- The field is declared at one of the levels. -/
def Declares (fs : List LogicalField) (f : LogicalField) : Prop :=
  ∃ path level, declaredLevel path fs = some level ∧ f ∈ level

structure Field.Mirrors (f : LogicalField) (g : Field) : Prop where
  name : g.name = f.name
  kind : g.kind = f.kind
  description : g.description = some generatedDescription
  nested : g.nested.isSome = g.kind.isNested

structure Schema.Mirrors (fs : List LogicalField) (s : Schema) : Prop where
  version : s.version = 0
  keyOffsets : s.keyOffsets = []
  keyDirections : s.keyDirections = []
  fields : List.Forall₂ Field.Mirrors fs s.fields

theorem rel_getElem? {α β : Type} {R : α → β → Prop} {l : List α} {m : List β}
    (h : List.Forall₂ R l m) (i : Nat) : Option.Rel R l[i]? m[i]? := by
  induction h generalizing i with
  | nil => exact .none
  | cons hab hrest ih =>
    cases i with
    | zero => exact .some hab
    | succ i => exact ih i

section

variable {f g : LogicalField} {fs inner : List LogicalField}

theorem Declares.here (hf : f ∈ fs) : Declares fs f :=
  ⟨[], fs, rfl, hf⟩

theorem Declares.below (hg : g ∈ fs) (hinner : g.layout = some inner) (h : Declares inner f) :
    Declares fs f := by
  obtain ⟨path, level, hlevel, hf⟩ := h
  obtain ⟨i, hi⟩ := List.mem_iff_getElem?.mp hg
  refine ⟨i :: path, level, ?_, hf⟩
  rw [declaredLevel, hi, Option.bind_some, hinner, Option.bind_some, hlevel]

theorem LogicalField.sizeOf_layout (hf : f ∈ fs) (h : f.layout = some inner) :
    sizeOf inner < sizeOf fs := by
  have hmem := List.sizeOf_lt_of_mem hf
  obtain ⟨name, kind, nested⟩ := f
  rw [LogicalField.mk.sizeOf_spec] at hmem
  unfold layout at h
  split at h
  · cases h
    cases nested with
    | none =>
      simp only [Option.getD_none, List.nil.sizeOf_spec, Option.none.sizeOf_spec] at hmem ⊢
      omega
    | some inner =>
      simp only [Option.getD_some, Option.some.sizeOf_spec] at hmem ⊢
      omega
  · cases h

theorem toFields_eq_mapM (fs : List LogicalField) : toFields fs = fs.mapM LogicalField.toField := by
  induction fs with
  | nil => rfl
  | cons f fs ih => rw [toFields, ih, List.mapM_cons]

theorem Schema.ofLogical?_eq_ok {s : Schema} :
    ofLogical? fs = .ok s ↔
      s.version = 0 ∧ s.keyOffsets = [] ∧ s.keyDirections = [] ∧
        fs.mapM LogicalField.toField = .ok s.fields := by
  rw [ofLogical?, Except.map_eq_ok, toFields_eq_mapM]
  constructor
  · rintro ⟨gs, hgs, rfl⟩
    exact ⟨rfl, rfl, rfl, hgs⟩
  · obtain ⟨version, fields, offsets, directions⟩ := s
    rintro ⟨rfl, rfl, rfl, hfields⟩
    exact ⟨fields, hfields, rfl⟩

theorem Schema.ofLogical?_eq_error {fault : SchemaFault} (h : ofLogical? fs = .error fault) :
    ∃ f ∈ fs, f.toField = .error fault := by
  rw [ofLogical?, Except.map_eq_error, toFields_eq_mapM] at h
  exact Except.exists_of_mapM_eq_error h

end

namespace LogicalField

variable {f : LogicalField}

theorem toField_of_misdeclared (h : f.Misdeclared) : f.toField = .error f.elementFault := by
  obtain ⟨name, kind, nested⟩ := f
  obtain ⟨rfl, inner, rfl, hinner⟩ := h
  have hcheck : checkElement (name.getD "") (inner.map LogicalField.kind) =
      .error (.bagElement (name.getD "") inner.length) := by
    rw [checkElement, if_neg hinner, List.length_map]
  rw [toField, nestedSchema, if_pos rfl, hcheck]
  rfl

theorem toField_of_not_misdeclared (h : ¬ f.Misdeclared) :
    f.toField = (f.layout.mapM Schema.ofLogical?).map fun nested =>
      ⟨f.name, f.kind, some generatedDescription, nested⟩ := by
  obtain ⟨name, kind, nested⟩ := f
  suffices hnested : nestedSchema name kind nested =
      (layout ⟨name, kind, nested⟩).mapM Schema.ofLogical? by rw [toField, hnested]
  cases nested with
  | none => cases kind <;> rfl
  | some inner =>
    have hinner : (toFields inner >>= fun gs => .ok (some ⟨0, gs, [], []⟩)) =
        (some inner).mapM Schema.ofLogical? := by
      rw [Option.mapM_some, Schema.ofLogical?]
      cases toFields inner <;> rfl
    cases kind with
    | tuple => exact hinner
    | bag =>
      have hcheck : checkElement (name.getD "") (inner.map LogicalField.kind) = .ok () :=
        if_pos (by_contra fun hne => h ⟨rfl, inner, rfl, hne⟩)
      rw [nestedSchema, if_pos rfl, hcheck]
      exact hinner
    | _ => rfl

/-- The schema in a field is made from the layout below its declaration. -/
theorem of_toField_eq_ok {g : Field} (h : f.toField = .ok g) :
    ¬ f.Misdeclared ∧ g.Mirrors f ∧
      Option.Rel (fun inner n => Schema.ofLogical? inner = .ok n) f.layout g.nested := by
  have hdeclared : ¬ f.Misdeclared := by
    intro hmis
    rw [toField_of_misdeclared hmis] at h
    cases h
  rw [toField_of_not_misdeclared hdeclared] at h
  obtain ⟨nested, hnested, rfl⟩ := Except.map_eq_ok.mp h
  have hsome : f.layout.isSome = f.kind.isNested := by
    unfold layout
    split <;> simp_all
  cases hlayout : f.layout with
  | none =>
    rw [hlayout] at hnested hsome
    cases hnested
    exact ⟨hdeclared, ⟨rfl, rfl, rfl, hsome⟩, .none⟩
  | some inner =>
    rw [hlayout] at hsome
    rw [hlayout, Option.mapM_some] at hnested
    obtain ⟨n, hn, rfl⟩ := Except.map_eq_ok.mp hnested
    exact ⟨hdeclared, ⟨rfl, rfl, rfl, hsome⟩, .some hn⟩

theorem of_toField_eq_error {fault : SchemaFault} (h : f.toField = .error fault) :
    f.Misdeclared ∧ fault = f.elementFault ∨
      ∃ inner, f.layout = some inner ∧ Schema.ofLogical? inner = .error fault := by
  by_cases hmis : f.Misdeclared
  · rw [toField_of_misdeclared hmis] at h
    cases h
    exact .inl ⟨hmis, rfl⟩
  · rw [toField_of_not_misdeclared hmis, Except.map_eq_error] at h
    cases hlayout : f.layout with
    | none =>
      rw [hlayout] at h
      cases h
    | some inner =>
      rw [hlayout, Option.mapM_some] at h
      exact .inr ⟨inner, rfl, Except.map_eq_error.mp h⟩

end LogicalField

namespace Schema

variable {fs : List LogicalField} {s : Schema}

theorem misdeclared_of_ofLogical? {fs : List LogicalField} {fault : SchemaFault}
    (h : ofLogical? fs = .error fault) :
    ∃ f, Declares fs f ∧ f.Misdeclared ∧ fault = f.elementFault := by
  obtain ⟨f, hf, hfield⟩ := ofLogical?_eq_error h
  rcases LogicalField.of_toField_eq_error hfield with hfault | ⟨inner, hinner, herror⟩
  · exact ⟨f, .here hf, hfault⟩
  · have hsize := LogicalField.sizeOf_layout hf hinner
    obtain ⟨g, hg, hfault⟩ := misdeclared_of_ofLogical? herror
    exact ⟨g, hg.below hf hinner, hfault⟩
termination_by sizeOf fs

/-- The schema at a level is made from the layout declared there. -/
theorem level_of_ofLogical? (h : ofLogical? fs = .ok s) (path : List Nat) :
    Option.Rel (fun level n => ofLogical? level = .ok n) (declaredLevel path fs) (s.level path) := by
  induction path generalizing fs s with
  | nil => exact .some h
  | cons i path ih =>
    obtain ⟨-, -, -, hfields⟩ := ofLogical?_eq_ok.mp h
    have hplace := rel_getElem? (Except.mapM_eq_ok_iff.mp hfields) i
    rw [declaredLevel, level]
    generalize fs[i]? = f, s.fields[i]? = g at hplace
    cases hplace with
    | none => exact .none
    | @some f g hfield =>
      obtain ⟨-, -, hnested⟩ := LogicalField.of_toField_eq_ok hfield
      rw [Option.bind_some, Option.bind_some]
      generalize f.layout = inner, g.nested = nested at hnested
      cases hnested with
      | none => exact .none
      | some hinner => exact ih hinner

theorem mirrors_of_ofLogical? (h : ofLogical? fs = .ok s) : s.Mirrors fs := by
  obtain ⟨hversion, hoffsets, hdirections, hfields⟩ := ofLogical?_eq_ok.mp h
  refine ⟨hversion, hoffsets, hdirections, (Except.mapM_eq_ok_iff.mp hfields).imp fun f g hfield => ?_⟩
  exact (LogicalField.of_toField_eq_ok hfield).2.1

theorem mirrors_level_of_ofLogical? (h : ofLogical? fs = .ok s) (path : List Nat) :
    Option.Rel (fun level n => n.Mirrors level) (declaredLevel path fs) (s.level path) := by
  have hmade := level_of_ofLogical? h path
  generalize declaredLevel path fs = level, s.level path = n at hmade
  cases hmade with
  | none => exact .none
  | some hn => exact .some (mirrors_of_ofLogical? hn)

theorem not_misdeclared_of_ofLogical? (h : ofLogical? fs = .ok s) {f : LogicalField}
    (hf : Declares fs f) : ¬ f.Misdeclared := by
  obtain ⟨path, level, hlevel, hf⟩ := hf
  have hmade := level_of_ofLogical? h path
  rw [hlevel] at hmade
  generalize s.level path = n at hmade
  cases hmade with
  | some hn =>
    obtain ⟨-, -, -, hfields⟩ := ofLogical?_eq_ok.mp hn
    obtain ⟨g, -, hfield⟩ := (Except.exists_of_mapM_eq_ok hfields).1 f hf
    exact (LogicalField.of_toField_eq_ok hfield).1

/-- A declaration is refused exactly for a misdeclared bag at some level, and the fault tells of
one. Otherwise its schema obeys the nesting rules and has the same levels, each with the fields
declared there. -/
theorem ofLogical?_mirrors (fs : List LogicalField) :
    ((∃ fault, ofLogical? fs = .error fault) ↔ ∃ f, Declares fs f ∧ f.Misdeclared) ∧
    (∀ fault, ofLogical? fs = .error fault →
      ∃ f, Declares fs f ∧ f.Misdeclared ∧ fault = f.elementFault) ∧
    ∀ s, ofLogical? fs = .ok s → s.check = .ok () ∧ ∀ path,
      Option.Rel (fun level n => n.Mirrors level) (declaredLevel path fs) (s.level path) := by
  refine ⟨⟨?_, ?_⟩, fun _ => misdeclared_of_ofLogical?, fun s h => ⟨?_, ?_⟩⟩
  · rintro ⟨fault, h⟩
    obtain ⟨f, hf, hmis, -⟩ := misdeclared_of_ofLogical? h
    exact ⟨f, hf, hmis⟩
  · rintro ⟨f, hf, hmis⟩
    cases h : ofLogical? fs with
    | error fault => exact ⟨fault, rfl⟩
    | ok s => exact absurd hmis (not_misdeclared_of_ofLogical? h hf)
  · obtain ⟨gs, hgs, rfl⟩ := Except.map_eq_ok.mp h
    exact (of_toFields fs hgs).2.1
  · exact mirrors_level_of_ofLogical? h

/-- Groups, each with a bag of unknown layout and a number whose layout is not looked at. -/
def groupFields : List LogicalField :=
  [⟨some "groups", .bag, some [⟨none, .tuple, some [⟨some "of", .bag, none⟩,
    ⟨some "n", .int, some [⟨some "b", .bag, some []⟩]⟩]⟩]⟩]

/-- A tuple with a bag whose elements have no tuple. -/
def hollowFields : List LogicalField :=
  [⟨some "t", .tuple, some [⟨some "b", .bag, some []⟩]⟩]

theorem ofLogical?_mirrors_groups :
    (∃ s, ofLogical? groupFields = .ok s ∧ s.check = .ok () ∧
      s.level [0, 0, 0] = some .empty ∧ s.level [0, 0, 1] = none ∧
      ∀ path, Option.Rel (fun level n => n.Mirrors level) (declaredLevel path groupFields)
        (s.level path)) ∧
    ofLogical? hollowFields = .error (.bagElement "b" 0) ∧
    ∃ f, Declares hollowFields f ∧ f.Misdeclared ∧ .bagElement "b" 0 = f.elementFault := by
  obtain ⟨-, -, hmade⟩ := ofLogical?_mirrors groupFields
  obtain ⟨hcheck, hlevels⟩ := hmade _ rfl
  obtain ⟨-, hrefused, -⟩ := ofLogical?_mirrors hollowFields
  exact ⟨⟨_, rfl, hcheck, rfl, rfl, hlevels⟩, rfl, hrefused _ rfl⟩

end Schema

end RangeSort
