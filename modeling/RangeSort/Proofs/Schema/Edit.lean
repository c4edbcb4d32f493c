import RangeSort.Proofs.Schema.Nesting

/-! What an edit needs and does. It is made at one level of a schema and sets the component that
it names there; the rest of that level and all levels not nested in it stay. Sort keys hold
afterwards when they did before. -/

namespace RangeSort

open InPlace

/-- Each component of a field is as it was or as one of the edits sets it. -/
structure FieldEdit.Sets (edits : List FieldEdit) (f f' : Field) : Prop where
  name : f'.name = f.name ∨ .name f'.name ∈ edits
  kind : f'.kind = f.kind ∨ .kind f'.kind ∈ edits
  description : f'.description = f.description ∨ .description f'.description ∈ edits
  nested : f'.nested = f.nested ∨ .nested f'.nested ∈ edits

theorem FieldEdit.sets_foldl (edits : List FieldEdit) (f : Field) :
    FieldEdit.Sets edits f (edits.foldl FieldEdit.apply f) := by
  induction edits generalizing f with
  | nil => exact ⟨.inl rfl, .inl rfl, .inl rfl, .inl rfl⟩
  | cons e edits ih =>
    obtain ⟨hname, hkind, hdescription, hnested⟩ := ih (e.apply f)
    rw [List.foldl_cons]
    constructor <;> cases e <;> simp_all [FieldEdit.apply]

namespace Edit

/-- The level at which an edit is made. -/
def level : Edit → List Nat
  | .field path _ => path.dropLast
  | _ => []

/-- The edit at its level. -/
def change : Edit → InPlace EditFault Unit
  | .field path edits =>
    match path.getLast? with
    | none => throw .noField
    | some i => Schema.setField (fun f => edits.foldl FieldEdit.apply f) i
  | e => e.perform

theorem perform_eq_atLevel (e : Edit) : e.perform = Schema.atLevel e.change e.level := by
  cases e with
  | field path edits =>
    rcases List.eq_nil_or_concat path with rfl | ⟨init, i, rfl⟩
    · rfl
    · rw [List.concat_eq_append]
      have hchange : (Edit.field (init ++ [i]) edits).change =
          Schema.setField (fun f => edits.foldl FieldEdit.apply f) i := by
        simp [change]
      rw [hchange, level, List.dropLast_concat, ← Schema.editField_append]
      rfl
  | _ => rfl

theorem atLevel_perform (e : Edit) (path : List Nat) :
    Schema.atLevel e.perform path = Schema.atLevel e.change (path ++ e.level) := by
  rw [Schema.atLevel_append, perform_eq_atLevel]

/-- Edits that fail leave the schema as it was, at whatever level they are made. -/
theorem restores_change (e : Edit) : e.change.Restores := by
  cases e with
  | fields value => exact Schema.restores_setFields.adapt _
  | sortKeys keys directions => exact Schema.restores_setSortKeys.adapt _
  | direction i value => exact Schema.restores_setDirection
  | version value => exact restores_of_ok fun s => rfl
  | field path edits =>
    cases hpath : path.getLast? with
    | none =>
      simp only [change, hpath]
      exact restores_throw _
    | some i =>
      simp only [change, hpath]
      exact Schema.restores_setField

/-- What an edit needs of the schema at its level. -/
def Allowed : Edit → Schema → Prop
  | .fields value, s => (∀ k ∈ s.keyOffsets, k < value.length) ∧ ∀ f ∈ value, f.check = .ok ()
  | .sortKeys keys directions, s =>
    keys.length = directions.length ∧ ∀ k ∈ keys, k < s.fields.length
  | .direction i _, s => i < s.keyDirections.length
  | .version _, _ => True
  | .field path _, s => ∃ i, path.getLast? = some i ∧ i < s.fields.length

/-- What the schema at the level of an edit becomes. -/
def Sets : Edit → Schema → Schema → Prop
  | .fields value, s, s' => s' = { s with fields := value }
  | .sortKeys keys directions, s, s' =>
    s' = { s with keyOffsets := keys, keyDirections := directions }
  | .direction i value, s, s' => s' = { s with keyDirections := s.keyDirections.set i value }
  | .version value, s, s' => s' = { s with version := value }
  | .field path edits, s, s' =>
    ∃ i f f', path.getLast? = some i ∧ s.fields[i]? = some f ∧
      f' = edits.foldl FieldEdit.apply f ∧ FieldEdit.Sets edits f f' ∧
      s' = { s with fields := s.fields.set i f' }

variable {e : Edit} {s s' : Schema}

theorem change_fields_eq_ok {value : List Field} :
    (change (.fields value)).result s = .ok s' ↔ (∀ k ∈ s.keyOffsets, k < value.length) ∧
      checkFields value = .ok () ∧ s' = { s with fields := value } := by
  simp only [change, perform, result_adapt, Except.mapError_eq_ok, Schema.setFields_eq_ok]

theorem change_sortKeys_eq_ok {keys : List Nat} {directions : List Direction} :
    (change (.sortKeys keys directions)).result s = .ok s' ↔ keys.length = directions.length ∧
      (∀ k ∈ keys, k < s.fields.length) ∧
      s' = { s with keyOffsets := keys, keyDirections := directions } := by
  simp only [change, perform, result_adapt, Except.mapError_eq_ok]
  exact Schema.withSortKeys_eq_ok

theorem exists_change_eq_ok : (∃ s', e.change.result s = .ok s') ↔ e.Allowed s := by
  cases e with
  | fields value => simp [change_fields_eq_ok, Allowed, checkFields_eq_ok]
  | sortKeys keys directions => simp [change_sortKeys_eq_ok, Allowed]
  | direction i value => simp [change, perform, Schema.setDirection_eq_ok, Allowed]
  | version value => exact ⟨fun _ => trivial, fun _ => ⟨_, rfl⟩⟩
  | field path edits =>
    cases hpath : path.getLast? with
    | none => simp [change, Allowed, hpath, result_eq_ok]
    | some i =>
      simp [change, Allowed, hpath, Schema.setField_eq_ok, ← Option.isSome_iff_exists]

theorem sets_of_change (h : e.change.result s = .ok s') : e.Sets s s' := by
  cases e with
  | fields value => exact (change_fields_eq_ok.mp h).2.2
  | sortKeys keys directions => exact (change_sortKeys_eq_ok.mp h).2.2
  | direction i value => exact (Schema.setDirection_eq_ok.mp h).2
  | version value =>
    cases h
    rfl
  | field path edits =>
    cases hpath : path.getLast? with
    | none => simp [change, hpath, result_eq_ok] at h
    | some i =>
      simp only [change, hpath] at h
      obtain ⟨f, hf, rfl⟩ := Schema.setField_eq_ok.mp h
      exact ⟨i, f, _, hpath, hf, rfl, FieldEdit.sets_foldl edits f, rfl⟩

/-- The schemas that an edit puts in. -/
def schemas : Edit → List Schema
  | .fields value => value.filterMap Field.nested
  | .field _ edits => edits.filterMap fun
    | .nested value => value
    | _ => none
  | _ => []

theorem keysHold_of_change (hnew : ∀ n ∈ e.schemas, n.KeysHold) (hs : s.KeysHold)
    (h : e.change.result s = .ok s') : s'.KeysHold := by
  obtain ⟨⟨hlength, hrange⟩, hnested⟩ := Schema.keysHold_iff.mp hs
  rw [Schema.keysHold_iff]
  cases e with
  | fields value =>
    obtain ⟨hin, -, rfl⟩ := change_fields_eq_ok.mp h
    exact ⟨⟨hlength, hin⟩, fun f hf n hn => hnew n (List.mem_filterMap.mpr ⟨f, hf, hn⟩)⟩
  | sortKeys keys directions =>
    obtain ⟨hkeys, hin, rfl⟩ := change_sortKeys_eq_ok.mp h
    exact ⟨⟨hkeys, hin⟩, hnested⟩
  | direction i value =>
    obtain ⟨-, rfl⟩ := Schema.setDirection_eq_ok.mp h
    exact ⟨⟨hlength.trans List.length_set.symm, hrange⟩, hnested⟩
  | version value =>
    cases h
    exact ⟨⟨hlength, hrange⟩, hnested⟩
  | field path edits =>
    obtain ⟨i, f, f', -, hf, -, hsets, rfl⟩ := sets_of_change h
    refine ⟨⟨hlength, fun k hk => ?_⟩, hnested.set i fun n hn => ?_⟩
    · rw [List.length_set]
      exact hrange k hk
    · rcases hsets.nested with hsame | hedit
      · exact hnested f (List.mem_of_getElem? hf) n (hsame ▸ hn)
      · exact hnew n (List.mem_filterMap.mpr ⟨_, hedit, hn⟩)

/-- An edit made somewhere in a schema. -/
structure Made (e : Edit) (path : List Nat) (s s' : Schema) : Prop where
  inside : ∃ n n', s.level (path ++ e.level) = some n ∧ e.Allowed n ∧
    s'.level (path ++ e.level) = some n' ∧ e.Sets n n'
  outside : ∀ q, ¬ path ++ e.level <+: q →
    (s'.level q).map Schema.outline = (s.level q).map Schema.outline

variable {path : List Nat}

theorem made_of_atLevel (h : (Schema.atLevel e.perform path).result s = .ok s') :
    e.Made path s s' := by
  rw [atLevel_perform] at h
  obtain ⟨n, n', hn, hchange, hn'⟩ := Schema.level_atLevel h
  have hallowed := exists_change_eq_ok.mp ⟨n', hchange⟩
  exact ⟨⟨n, n', hn, hallowed, hn', sets_of_change hchange⟩,
    fun q => Schema.outline_level_atLevel h⟩

/-- An edit that can be made is not refused. -/
theorem exists_atLevel_of_made (h : e.Made path s s') :
    ∃ t, (Schema.atLevel e.perform path).result s = .ok t := by
  obtain ⟨n, -, hn, hallowed, -⟩ := h.inside
  obtain ⟨n', hchange⟩ := exists_change_eq_ok.mpr hallowed
  rw [atLevel_perform]
  exact Schema.exists_atLevel hn hchange

theorem keysHold_of_atLevel (hnew : ∀ n ∈ e.schemas, n.KeysHold) (hs : s.KeysHold)
    (h : (Schema.atLevel e.perform path).result s = .ok s') : s'.KeysHold := by
  rw [atLevel_perform] at h
  exact hs.atLevel (fun n n' hn => keysHold_of_change hnew hn) h

theorem restores_atLevel (e : Edit) (path : List Nat) :
    (Schema.atLevel e.perform path).Restores := by
  rw [atLevel_perform]
  exact Schema.restores_atLevel e.restores_change _

end Edit

end RangeSort
