import RangeSort.Proofs.Schema.InPlace
import RangeSort.Proofs.SortKey.Path

/-! Records that conform to a schema, and the keys taken from them. -/

namespace RangeSort

/-- Fields of unknown kind hold bytes. -/
def Kind.stored : Kind → Kind
  | .unknown => .bytes
  | kind => kind

mutual

/-- Null, or a value of the kind of the field whose nested rows have the declared width. -/
def Field.Fits : Field → Value → Prop
  | ⟨_, .tuple, _, nested⟩, v => v = .null ∨ ∃ items, v = .tuple items ∧ tupleFits nested items
  | ⟨_, .bag, _, nested⟩, v => v = .null ∨ ∃ rows, v = .bag rows ∧ ∀ r ∈ rows, elementFits nested r
  | ⟨_, kind, _, _⟩, v => v = .null ∨ v.kind = kind.stored
termination_by structural f => f

def fieldsFit : List Field → Row → Prop
  | [], row => row = []
  | f :: fs, row => row ≠ [] ∧ f.Fits (row.headD .null) ∧ fieldsFit fs row.tail
termination_by structural fs => fs

def Schema.Fits : Schema → Row → Prop
  | ⟨_, fields, _, _⟩, row => fieldsFit fields row
termination_by structural s => s

/-- A tuple without a declared layout is empty. -/
def tupleFits : Option Schema → Row → Prop
  | none, row => row = []
  | some s, row => s.Fits row
termination_by structural s => s

def elementFits : Option Schema → Row → Prop
  | none, row => row = []
  | some ⟨_, fields, _, _⟩, row => firstFits fields row
termination_by structural s => s

def firstFits : List Field → Row → Prop
  | [], row => row = []
  | f :: _, row => f.nestedFits row
termination_by structural fs => fs

def Field.nestedFits : Field → Row → Prop
  | ⟨_, _, _, nested⟩, row => tupleFits nested row
termination_by structural f => f

end

/-- Records may be shorter or longer than their schema: missing values are null. -/
def Schema.Conforms (s : Schema) (record : Row) : Prop :=
  ∀ (i : Nat) (f : Field), s.fields[i]? = some f → f.Fits (record.item i)

theorem Field.fits_null (f : Field) : f.Fits .null := by
  obtain ⟨name, kind, description, nested⟩ := f
  cases kind <;> exact .inl rfl

theorem tupleFits_iff (f : Field) (row : Row) :
    tupleFits f.nested row ↔ fieldsFit f.itemFields row := by
  obtain ⟨name, kind, description, nested⟩ := f
  match nested with
  | none => exact .rfl
  | some ⟨_, _, _, _⟩ => exact .rfl

theorem elementFits_iff (f : Field) (row : Row) :
    elementFits f.nested row ↔ fieldsFit f.elementFields row := by
  obtain ⟨name, kind, description, nested⟩ := f
  match nested with
  | none => exact .rfl
  | some ⟨_, [], _, _⟩ => exact .rfl
  | some ⟨_, ⟨gname, gkind, gdescription, gnested⟩ :: _, _, _⟩ =>
    exact tupleFits_iff ⟨gname, gkind, gdescription, gnested⟩ row

namespace Field

variable {f : Field} {v : Value}

theorem fits_plain (hk : f.kind.isNested = false) :
    f.Fits v ↔ v = .null ∨ v.kind = f.kind.stored := by
  obtain ⟨name, kind, description, nested⟩ := f
  cases kind <;> first | exact .rfl | cases hk

theorem fits_tuple (hk : f.kind = .tuple) :
    f.Fits v ↔ v = .null ∨ ∃ items, v = .tuple items ∧ fieldsFit f.itemFields items := by
  simp only [← tupleFits_iff]
  obtain ⟨name, kind, description, nested⟩ := f
  cases hk
  exact .rfl

theorem fits_bag (hk : f.kind = .bag) :
    f.Fits v ↔ v = .null ∨ ∃ rows, v = .bag rows ∧ ∀ r ∈ rows, fieldsFit f.elementFields r := by
  simp only [← elementFits_iff]
  obtain ⟨name, kind, description, nested⟩ := f
  cases hk
  exact .rfl

end Field

theorem fieldsFit.item {fs : List Field} {row : Row} (h : fieldsFit fs row) {i : Nat} {f : Field}
    (hf : fs[i]? = some f) : f.Fits (row.item i) := by
  induction fs generalizing row i with
  | nil => cases hf
  | cons g fs ih =>
    obtain ⟨hrow, hhead, htail⟩ := h
    obtain ⟨v, row, rfl⟩ := List.exists_cons_of_ne_nil hrow
    cases i with
    | zero =>
      cases hf
      exact hhead
    | succ i => exact ih htail hf

theorem descends_fits : Descends Field.Fits where
  null := Field.fits_null
  tuple hf h := by
    refine ((Field.fits_tuple hf).mp h).imp id ?_
    rintro ⟨items, rfl, hfields⟩
    exact ⟨items, rfl, fun _ _ => hfields.item⟩

theorem Schema.Conforms.follow {s : Schema} {record : Row} (h : s.Conforms record)
    {path : List Nat} {f : Field} (hr : s.resolve path = .ok f) : f.Fits (record.follow path) :=
  (descends_fits.follow_schema h hr).2

namespace SortKey

theorem ofColumns_eq_ok {schema : Schema} {columns : List KeyColumn} {key : SortKey}
    (h : ofColumns schema columns = .ok key) :
    key.columns = columns ∧
      columns.mapM (fun c => schema.resolve c.path) = .ok key.schema.fields := by
  obtain ⟨fields, hfields, h⟩ := Except.bind_eq_ok.mp h
  obtain ⟨unsorted, hunsorted, h⟩ := Except.bind_eq_ok.mp h
  obtain ⟨-, -, hunsorted⟩ := Except.bind_eq_ok.mp hunsorted
  obtain ⟨sorted, hsorted, h⟩ := Except.bind_eq_ok.mp h
  cases h
  cases hunsorted
  obtain ⟨-, -, rfl⟩ := Schema.withSortKeys_eq_ok.mp hsorted
  exact ⟨rfl, hfields⟩

section

variable {schema : Schema} {columns : List KeyColumn} {key : SortKey} {i : Nat} {c : KeyColumn}

theorem getElem?_project (hkey : ofColumns schema columns = .ok key) (record : Row) (i : Nat) :
    (key.project record)[i]? = columns[i]?.map fun c => record.follow c.path := by
  rw [project, (ofColumns_eq_ok hkey).1, List.getElem?_map]

theorem item_project (hkey : ofColumns schema columns = .ok key) (hc : columns[i]? = some c)
    (record : Row) : (key.project record).item i = record.follow c.path := by
  rw [Row.item, getElem?_project hkey, hc]
  rfl

theorem length_fields (hkey : ofColumns schema columns = .ok key) :
    key.schema.fields.length = columns.length :=
  Except.length_of_mapM_eq_ok (ofColumns_eq_ok hkey).2

theorem resolve_column (hkey : ofColumns schema columns = .ok key) (hc : columns[i]? = some c)
    {f : Field} (hf : key.schema.fields[i]? = some f) : schema.resolve c.path = .ok f :=
  Except.apply_of_mapM_eq_ok (ofColumns_eq_ok hkey).2 hc hf

end

theorem fieldsFit_follow {schema : Schema} {record : Row} (h : schema.Conforms record)
    {columns : List KeyColumn} {fields : List Field}
    (hf : columns.mapM (fun c => schema.resolve c.path) = .ok fields) :
    fieldsFit fields (columns.map fun c => record.follow c.path) := by
  induction columns generalizing fields with
  | nil =>
    cases hf
    rfl
  | cons c columns ih =>
    rw [List.mapM_cons] at hf
    obtain ⟨f, hhead, hf⟩ := Except.bind_eq_ok.mp hf
    obtain ⟨fs, htail, hf⟩ := Except.bind_eq_ok.mp hf
    cases hf
    exact ⟨by simp, h.follow hhead, ih htail⟩

theorem fits_project {schema : Schema} {columns : List KeyColumn} {key : SortKey} {record : Row}
    (hkey : ofColumns schema columns = .ok key) (h : schema.Conforms record) :
    fieldsFit key.schema.fields (key.project record) := by
  obtain ⟨hcolumns, hfields⟩ := ofColumns_eq_ok hkey
  rw [project, hcolumns]
  exact fieldsFit_follow h hfields

end SortKey

end RangeSort
