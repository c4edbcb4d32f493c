import RangeSort.Converter
import RangeSort.Proofs.Schema.Equality
import RangeSort.SortKey.Order

/-! Equal schemas in use. They have the same text, columns and faults, give equal sort keys and
coerce rows in the same way, so that nothing tells one from the other. -/

namespace RangeSort

theorem Field.resolve_undescribed (whole path : List Nat) (f : Field) :
    f.undescribed.resolve whole path = (f.resolve whole path).map undescribed := by
  induction path generalizing f with
  | nil =>
    simp only [resolve, f.kind_undescribed, f.label_undescribed]
    split <;> rfl
  | cons i path ih =>
    have hfield : (f.undescribed.nested.bind fun s => s.fields[i]?) =
        (f.nested.bind fun s => s.fields[i]?).map undescribed := by
      rw [nested_undescribed]
      cases f.nested with
      | none => rfl
      | some s => simp [s.fields_undescribed]
    simp only [resolve, f.kind_undescribed, f.label_undescribed, hfield]
    split
    · rfl
    · cases f.nested.bind fun s => s.fields[i]? with
      | none => rfl
      | some g => exact ih g

theorem Schema.resolve_undescribed (s : Schema) (path : List Nat) :
    s.undescribed.resolve path = (s.resolve path).map Field.undescribed := by
  cases path with
  | nil => rfl
  | cons i path =>
    simp only [resolve, s.fields_undescribed, List.getElem?_map, List.length_map]
    cases s.fields[i]? with
    | none => rfl
    | some f => exact f.resolve_undescribed _ path

theorem Schema.withSortKeys_undescribed (s : Schema) (keys : List Nat)
    (directions : List Direction) :
    s.undescribed.withSortKeys keys directions =
      (s.withSortKeys keys directions).map undescribed := by
  obtain ⟨version, fields, offsets, oldDirections⟩ := s
  have hlength : (undescribedFields fields).length = fields.length := by
    rw [undescribedFields_eq_map, List.length_map]
  simp only [undescribed, withSortKeys, InPlace.result, outcome_setSortKeys, hlength]
  split
  · rfl
  · cases keys.find? fun k => fields.length ≤ k <;> rfl

theorem Schema.ofFields?_undescribed (fs : List Field) :
    Schema.ofFields? (fs.map Field.undescribed) = (Schema.ofFields? fs).map Schema.undescribed := by
  have hcheck := checkFields_undescribed fs
  rw [undescribedFields_eq_map] at hcheck
  rw [ofFields?, ofFields?, hcheck, ← undescribedFields_eq_map]
  cases checkFields fs <;> rfl

theorem Schema.undescribed_set {s : Schema} {i : Nat} {f g : Field} (hf : s.fields[i]? = some f)
    (hg : g.undescribed = f.undescribed) :
    undescribed { s with fields := s.fields.set i g } = s.undescribed := by
  obtain ⟨version, fields, offsets, directions⟩ := s
  simp only [undescribed, undescribedFields_eq_map]
  rw [map_set_of_eq hf hg]

/-- A change in place of what equality does not look at makes an equal schema. -/
theorem Schema.undescribed_editField {edit : Field → Field}
    (hedit : ∀ f, (edit f).undescribed = f.undescribed) {path : List Nat} {s s' : Schema}
    (h : (editField edit path).result s = .ok s') : s'.undescribed = s.undescribed := by
  induction path generalizing s s' with
  | nil => cases h
  | cons i path ih =>
    cases path with
    | nil =>
      obtain ⟨f, hf, rfl⟩ := setField_eq_ok.mp h
      exact undescribed_set hf (hedit f)
    | cons j path =>
      obtain ⟨⟨name, kind, description, _⟩, n, n', hf, rfl, hn', rfl⟩ := within_eq_ok.mp h
      refine undescribed_set hf ?_
      simp only [Field.undescribed, undescribedNested, ih hn']

namespace SortKey

def undescribed (key : SortKey) : SortKey :=
  ⟨key.columns, key.schema.undescribed⟩

theorem beq_iff {a b : SortKey} : (a == b) = true ↔ a.undescribed = b.undescribed := by
  obtain ⟨columns, schema⟩ := a
  obtain ⟨columns', schema'⟩ := b
  have hschema : (schema == schema') = true ↔ schema.undescribed = schema'.undescribed :=
    schema.same_iff schema'
  simp only [undescribed, SortKey.mk.injEq, ← hschema, ← beq_iff_eq (a := columns)]
  exact Bool.and_eq_true_iff

theorem ofColumns_undescribed (s : Schema) (columns : List KeyColumn) :
    ofColumns s.undescribed columns = (ofColumns s columns).map undescribed := by
  have hfields := Except.mapM_map (l := columns) fun c _ => s.resolve_undescribed c.path
  rw [ofColumns, ofColumns, hfields]
  cases columns.mapM fun c => s.resolve c.path with
  | error fault => rfl
  | ok fields =>
    simp only [Except.map_ok, Except.ok_bind, Schema.ofFields?_undescribed]
    cases Schema.ofFields? fields with
    | error fault => rfl
    | ok unsorted =>
      simp only [Except.map_ok, Except.ok_bind, Schema.withSortKeys_undescribed]
      cases unsorted.withSortKeys (List.range columns.length) (columns.map KeyColumn.direction) with
      | error fault => rfl
      | ok key => rfl

theorem ofSchema_undescribed (s : Schema) :
    ofSchema s.undescribed = (ofSchema s).map undescribed := by
  have hoffsets : s.undescribed.keyOffsets = s.keyOffsets := by
    cases s
    rfl
  have hdirections : s.undescribed.keyDirections = s.keyDirections := by
    cases s
    rfl
  rw [ofSchema, hoffsets, hdirections, ofColumns_undescribed, ofSchema]

/-- The same fault, or keys that are equal, compare equally and take the same of each record. -/
inductive SameResult : Except SchemaFault SortKey → Except SchemaFault SortKey → Prop
  | fault (fault : SchemaFault) : SameResult (.error fault) (.error fault)
  | key {a b : SortKey} (hkeys : (a == b) = true) (hcompare : a.compare = b.compare)
      (hproject : a.project = b.project) : SameResult (.ok a) (.ok b)

theorem sameResult_of_map {x y : Except SchemaFault SortKey}
    (h : x.map undescribed = y.map undescribed) : SameResult x y := by
  cases x with
  | error fault =>
    cases y with
    | error fault' =>
      cases h
      exact .fault fault
    | ok b => cases h
  | ok a =>
    cases y with
    | error fault => cases h
    | ok b =>
      have hab : a.undescribed = b.undescribed := Except.ok.inj h
      have hcolumns : a.columns = b.columns := (SortKey.mk.inj hab).1
      refine .key (beq_iff.mpr hab) ?_ ?_
      · funext r r'
        rw [compare, compare, directions, directions, hcolumns]
      · funext record
        rw [project, project, hcolumns]

end SortKey

theorem Converter.coerceFields_undescribed (c : Converter) (fs : List Field)
    (raw : List (Option Octets)) :
    c.coerceFields (fs.map Field.undescribed) raw = c.coerceFields fs raw := by
  induction fs generalizing c raw with
  | nil => rfl
  | cons f fs ih => simp only [List.map_cons, coerceFields, f.kind_undescribed, ih]

theorem Converter.coerceRow_undescribed (c : Converter) (s : Schema) (raw : List (Option Octets)) :
    c.coerceRow s.undescribed raw = c.coerceRow s raw := by
  rw [coerceRow, coerceRow, s.fields_undescribed, c.coerceFields_undescribed]

namespace Schema

/-- What is done with one schema is done with the other. -/
structure Alike (s t : Schema) : Prop where
  render : s.render = t.render
  check : s.check = t.check
  columns : s.columns = t.columns
  ofColumns (columns : List KeyColumn) :
    SortKey.SameResult (SortKey.ofColumns s columns) (SortKey.ofColumns t columns)
  ofSchema : SortKey.SameResult (SortKey.ofSchema s) (SortKey.ofSchema t)
  coerceRow (c : Converter) (raw : List (Option Octets)) : c.coerceRow s raw = c.coerceRow t raw

theorem alike_of_undescribed {s t : Schema} (h : s.undescribed = t.undescribed) : s.Alike t where
  render := by rw [← s.render_undescribed, h, t.render_undescribed]
  check := by rw [← s.check_undescribed, h, t.check_undescribed]
  columns := by rw [← s.columns_undescribed, h, t.columns_undescribed]
  ofColumns columns := by
    apply SortKey.sameResult_of_map
    rw [← SortKey.ofColumns_undescribed, h, SortKey.ofColumns_undescribed]
  ofSchema := by
    apply SortKey.sameResult_of_map
    rw [← SortKey.ofSchema_undescribed, h, SortKey.ofSchema_undescribed]
  coerceRow c raw := by
    rw [← c.coerceRow_undescribed s, h, c.coerceRow_undescribed]

theorem beq_iff {s t : Schema} : (s == t) = true ↔ s.undescribed = t.undescribed :=
  s.same_iff t

/-- Schemas are equal when nothing but descriptions tells them apart, at any depth, and equal
schemas cannot be told apart by use. -/
theorem beq_alike :
    Equivalence (fun s t : Schema => (s == t) = true) ∧
    (∀ s t : Schema, (s == t) = true ↔ s.undescribed = t.undescribed) ∧
    (∀ (s s' : Schema) (path : List Nat) (value : Option String),
      (Edit.perform (.field path [.description value])).result s = .ok s' → (s == s') = true) ∧
    ∀ s t : Schema, (s == t) = true → s.Alike t := by
  refine ⟨⟨fun s => beq_iff.mpr rfl, fun h => ?_, fun h h' => ?_⟩, fun s t => beq_iff,
    fun s s' path value h => ?_, fun s t h => alike_of_undescribed (beq_iff.mp h)⟩
  · exact beq_iff.mpr (beq_iff.mp h).symm
  · exact beq_iff.mpr ((beq_iff.mp h).trans (beq_iff.mp h'))
  · have hedit (f : Field) :
        ([FieldEdit.description value].foldl FieldEdit.apply f).undescribed = f.undescribed := by
      obtain ⟨name, kind, description, nested⟩ := f
      rfl
    exact beq_iff.mpr (undescribed_editField hedit h).symm

def plainPoints : Schema :=
  ⟨1, [⟨some "p", .tuple, none, some ⟨0, [⟨some "x", .int, none, none⟩], [], []⟩⟩],
    [0], [.descending]⟩

def describedPoints : Schema :=
  ⟨1, [⟨some "p", .tuple, some "a point",
    some ⟨0, [⟨some "x", .int, some "to the right", none⟩], [], []⟩⟩], [0], [.descending]⟩

theorem beq_alike_points :
    (plainPoints == describedPoints) = true ∧ plainPoints.Alike describedPoints :=
  ⟨rfl, beq_alike.2.2.2 plainPoints describedPoints rfl⟩

end Schema

end RangeSort
