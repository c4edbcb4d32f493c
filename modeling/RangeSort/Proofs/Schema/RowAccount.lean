import RangeSort.Proofs.Schema.RowCoercion

/-! An account of coerced rows. Fields are coerced one by one: the leftmost field that refuses its
octets fails the row, and the warnings are those of the fields up to there, each field's own. -/

namespace RangeSort

/-- A field of composite kind refuses octets that cannot be read and those of another kind. -/
inductive Kind.Refuses (kind : Kind) : Option Octets → ReadError → Prop
  | unreadable {octets : Octets} {e : ReadError} (hkind : kind.isComposite = true)
      (h : Value.read octets = .error e) : Refuses kind (some octets) e
  | otherKind {octets : Octets} {v : Value} (hkind : kind.isComposite = true)
      (h : Value.read octets = .ok v) (hnull : v ≠ .null) (hv : v.kind ≠ kind) :
      Refuses kind (some octets) (.wrongKind kind v.kind)

namespace Coerced

variable {target : Kind} {octets : Octets} {c : Coerced Value}

theorem present_composite (h : target.isComposite = true) :
    present octets target = ofRead target (Value.read octets) := by
  cases target <;> first | rfl | cases h

theorem warnings_ofRead (target : Kind) (read : Except ReadError Value) :
    (ofRead target read).warnings = [] := by
  cases read with
  | error e => rfl
  | ok v =>
    by_cases hnull : v = .null
    · rw [hnull]
      rfl
    · rw [ofRead_of_ne_null hnull]
      split <;> rfl

theorem ofRead_eq_error {read : Except ReadError Value} {e : ReadError} :
    (ofRead target read).result = .error e ↔ read = .error e ∨
      ∃ v, read = .ok v ∧ v ≠ .null ∧ v.kind ≠ target ∧ e = .wrongKind target v.kind := by
  cases read with
  | error e' => simp [ofRead]
  | ok v =>
    by_cases hnull : v = .null
    · simp [hnull, ofRead, value]
    · by_cases hkind : v.kind = target
      · simp [ofRead_of_ne_null hnull, hkind, value]
      · rw [ofRead_of_ne_null hnull, if_neg hkind]
        constructor
        · rintro ⟨⟩
          exact .inr ⟨v, rfl, hnull, hkind, rfl⟩
        · rintro (h | ⟨w, hw, -, -, rfl⟩)
          · cases h
          · cases hw
            rfl

theorem Interpreted.ne_error (hc : c.Interpreted target) {e : ReadError} : c.result ≠ .error e := by
  cases hc <;> nofun

theorem Interpreted.length_le (hc : c.Interpreted target) : c.warnings.length ≤ 1 := by
  cases hc with
  | kept hkind hnull hlength => exact hlength
  | dropped w => exact Nat.le_refl 1

theorem Interpreted.length_of_null (hc : c.Interpreted target) (h : c.result = .ok .null) :
    c.warnings.length = 1 := by
  cases hc with
  | kept hkind hnull hlength => exact absurd (Except.ok.inj h) hnull
  | dropped w => rfl

theorem warnings_present (h : target.isScalar = false) : (present octets target).warnings = [] := by
  cases target with
  | map | tuple | bag => exact warnings_ofRead _ _
  | text | bytes | unknown => rfl
  | _ => cases h

end Coerced

theorem coerce_eq_error {kind : Kind} {raw : Option Octets} {e : ReadError} :
    (coerce kind raw).result = .error e ↔ kind.Refuses raw e := by
  cases raw with
  | none => exact iff_of_false nofun nofun
  | some octets =>
    by_cases hkind : kind.isComposite = true
    · simp only [coerce, Coerced.present_composite hkind, Coerced.ofRead_eq_error]
      constructor
      · rintro (h | ⟨v, h, hnull, hv, rfl⟩)
        · exact .unreadable hkind h
        · exact .otherKind hkind h hnull hv
      · rintro (⟨-, h⟩ | ⟨-, h, hnull, hv⟩)
        · exact .inl h
        · exact .inr ⟨_, h, hnull, hv, rfl⟩
    · have hresult : (coerce kind (some octets)).result ≠ .error e := by
        cases kind with
        | boolean | int | long | float | double =>
          exact (Coerced.interpreted_present rfl).ne_error
        | text | bytes | unknown => nofun
        | _ => exact absurd rfl hkind
      refine iff_of_false hresult ?_
      rintro (⟨h, -⟩ | ⟨h, -⟩) <;> exact hkind h

/-- The warnings of fields, each field's own, from left to right. -/
def fieldWarnings (fs : List Field) (raw : List (Option Octets)) : List Warning :=
  fs.zipIdx.flatMap fun (f, i) => (coerce f.kind raw[i]?.join).warnings

theorem join_getElem?_zero (raw : List (Option Octets)) : raw[0]?.join = raw.head?.getD none := by
  cases raw <;> rfl

theorem join_getElem?_succ (raw : List (Option Octets)) (i : Nat) :
    raw[i + 1]?.join = raw.tail[i]?.join := by
  rw [List.getElem?_tail]

theorem fieldWarnings_cons (f : Field) (fs : List Field) (raw : List (Option Octets)) :
    fieldWarnings (f :: fs) raw =
      (coerce f.kind (raw.head?.getD none)).warnings ++ fieldWarnings fs raw.tail := by
  simp only [fieldWarnings, List.zipIdx_cons, List.flatMap_cons, List.zipIdx_succ, List.flatMap_map,
    join_getElem?_zero, join_getElem?_succ]

section Fields

variable {f : Field} {fs : List Field} {raw : List (Option Octets)} {row : Row} {v : Value}
  {e : ReadError}

theorem warnings_of_error {kind : Kind} {octets : Option Octets}
    (h : (coerce kind octets).result = .error e) : (coerce kind octets).warnings = [] := by
  have hcomposite {b : Octets} (hkind : kind.isComposite = true) :
      (coerce kind (some b)).warnings = [] := by
    rw [coerce, Coerced.present_composite hkind, Coerced.warnings_ofRead]
  rcases coerce_eq_error.mp h with ⟨hkind, -⟩ | ⟨hkind, -⟩ <;> exact hcomposite hkind

theorem coerceFields_of_error (h : (coerce f.kind raw[0]?.join).result = .error e) :
    coerceFields (f :: fs) raw = ⟨.error e, []⟩ := by
  have hnone := warnings_of_error h
  rw [join_getElem?_zero] at h hnone
  simp only [coerceFields, h, hnone]

theorem coerceFields_of_ok (h : (coerce f.kind raw[0]?.join).result = .ok v) :
    coerceFields (f :: fs) raw = ⟨(coerceFields fs raw.tail).result.map (v :: ·),
      (coerce f.kind raw[0]?.join).warnings ++ (coerceFields fs raw.tail).warnings⟩ := by
  rw [join_getElem?_zero] at h ⊢
  simp only [coerceFields, h]

/-- A row is its typed fields and the octets that are left. -/
theorem exists_typed_of_coerceFields (h : (coerceFields fs raw).result = .ok row) :
    ∃ typed : Row, typed.length = fs.length ∧
      row = typed ++ (raw.drop fs.length).map fun b => b.elim .null .bytes := by
  induction fs generalizing raw row with
  | nil =>
    cases h
    exact ⟨[], rfl, rfl⟩
  | cons f fs ih =>
    cases hfirst : (coerce f.kind raw[0]?.join).result with
    | error e =>
      rw [coerceFields_of_error hfirst] at h
      cases h
    | ok v =>
      rw [coerceFields_of_ok hfirst] at h
      obtain ⟨rest, hrest, rfl⟩ := Except.map_eq_ok.mp h
      obtain ⟨typed, hlength, rfl⟩ := ih hrest
      refine ⟨v :: typed, congrArg (· + 1) hlength, ?_⟩
      rw [List.drop_tail]
      rfl

theorem length_of_coerceFields (h : (coerceFields fs raw).result = .ok row) :
    row.length = max raw.length fs.length := by
  obtain ⟨typed, hlength, rfl⟩ := exists_typed_of_coerceFields h
  rw [List.length_append, hlength, List.length_map, List.length_drop]
  omega

theorem warnings_of_coerceFields_ok (h : (coerceFields fs raw).result = .ok row) :
    (coerceFields fs raw).warnings = fieldWarnings fs raw := by
  induction fs generalizing raw row with
  | nil => rfl
  | cons f fs ih =>
    cases hfirst : (coerce f.kind raw[0]?.join).result with
    | error e =>
      rw [coerceFields_of_error hfirst] at h
      cases h
    | ok v =>
      rw [coerceFields_of_ok hfirst] at h ⊢
      obtain ⟨rest, hrest, -⟩ := Except.map_eq_ok.mp h
      rw [fieldWarnings_cons, ih hrest, join_getElem?_zero]

/-- A row that fails does so at its leftmost field that does. -/
theorem of_coerceFields_error (h : (coerceFields fs raw).result = .error e) :
    ∃ (i : Nat) (f : Field), fs[i]? = some f ∧ (coerce f.kind raw[i]?.join).result = .error e ∧
      (∀ j < i, ∀ (g : Field) (e' : ReadError), fs[j]? = some g →
        (coerce g.kind raw[j]?.join).result ≠ .error e') ∧
      (coerceFields fs raw).warnings = fieldWarnings (fs.take i) raw := by
  induction fs generalizing raw with
  | nil => cases h
  | cons f fs ih =>
    cases hfirst : (coerce f.kind raw[0]?.join).result with
    | error e' =>
      rw [coerceFields_of_error hfirst] at h ⊢
      cases h
      exact ⟨0, f, rfl, hfirst, nofun, rfl⟩
    | ok v =>
      rw [coerceFields_of_ok hfirst] at h ⊢
      obtain ⟨i, g, hg, herror, hbefore, hwarnings⟩ := ih (Except.map_eq_error.mp h)
      refine ⟨i + 1, g, hg, by rwa [join_getElem?_succ], fun j hj g' e' hg' => ?_, ?_⟩
      · cases j with
        | zero =>
          cases hg'
          rw [hfirst]
          nofun
        | succ j =>
          rw [join_getElem?_succ]
          exact hbefore j (Nat.lt_of_succ_lt_succ hj) g' e' hg'
      · rw [List.take_succ_cons, fieldWarnings_cons, hwarnings, join_getElem?_zero]

end Fields

/-- An account of a row that was coerced: when it fails and for which field, what its values are,
and which warnings it gives. -/
structure RowAccount (fs : List Field) (raw : List (Option Octets)) (outcome : Coerced Row) :
    Prop where
  fails_iff : (∃ e, outcome.result = .error e) ↔
    ∃ (i : Nat) (f : Field) (e : ReadError), fs[i]? = some f ∧ f.kind.Refuses raw[i]?.join e
  leftmost : ∀ e, outcome.result = .error e →
    ∃ (i : Nat) (f : Field), fs[i]? = some f ∧ f.kind.Refuses raw[i]?.join e ∧
      (∀ j < i, ∀ (g : Field) (e' : ReadError), fs[j]? = some g →
        ¬ g.kind.Refuses raw[j]?.join e') ∧
      outcome.warnings = fieldWarnings (fs.take i) raw
  length : ∀ row, outcome.result = .ok row → row.length = max raw.length fs.length
  typed : ∀ row, outcome.result = .ok row → ∀ (i : Nat) (f : Field), fs[i]? = some f →
    ∃ v, row[i]? = some v ∧ (coerce f.kind raw[i]?.join).result = .ok v ∧
      (raw[i]?.join = none → v = .null) ∧ (v = .null ∨ v.kind = f.kind.stored)
  untyped : ∀ row, outcome.result = .ok row → ∀ i, fs.length ≤ i →
    row[i]? = raw[i]?.map fun b => b.elim .null .bytes
  warnings : ∀ row, outcome.result = .ok row → outcome.warnings = fieldWarnings fs raw

theorem coerceFields_account (fs : List Field) (raw : List (Option Octets)) :
    RowAccount fs raw (coerceFields fs raw) where
  fails_iff := by
    constructor
    · rintro ⟨e, h⟩
      obtain ⟨i, f, hf, herror, -⟩ := of_coerceFields_error h
      exact ⟨i, f, e, hf, coerce_eq_error.mp herror⟩
    · rintro ⟨i, f, e, hf, hrefuses⟩
      cases hresult : (coerceFields fs raw).result with
      | error e' => exact ⟨e', rfl⟩
      | ok row =>
        have herror := coerce_eq_error.mpr hrefuses
        cases herror.symm.trans (item_of_coerceFields hresult hf)
  leftmost e h := by
    obtain ⟨i, f, hf, herror, hbefore, hwarnings⟩ := of_coerceFields_error h
    refine ⟨i, f, hf, coerce_eq_error.mp herror, fun j hj g e' hg hrefuses => ?_, hwarnings⟩
    exact hbefore j hj g e' hg (coerce_eq_error.mpr hrefuses)
  length row := length_of_coerceFields
  typed row h i f hf := by
    have hfs := (List.getElem?_eq_some_iff.mp hf).1
    have hlength := length_of_coerceFields h
    have hget := List.getElem?_eq_getElem (l := row) (i := i) (by omega)
    have hitem := item_of_coerceFields h hf
    rw [Row.item, hget, Option.getD_some] at hitem
    refine ⟨_, hget, hitem, fun hnone => ?_, kind_of_coerce hitem⟩
    rw [hnone] at hitem
    exact (Except.ok.inj hitem).symm
  untyped row h i hi := by
    obtain ⟨typed, hlength, rfl⟩ := exists_typed_of_coerceFields h
    rw [List.getElem?_append_right (hlength ▸ hi), List.getElem?_map, List.getElem?_drop, hlength,
      Nat.add_sub_cancel' hi]
  warnings row := warnings_of_coerceFields_ok

end RangeSort
