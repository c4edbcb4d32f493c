import RangeSort.Proofs.Except
import RangeSort.Schema.Edit

/-! What a change of a schema in place leaves there. Setters check before they write, and so one
that fails leaves the schema as it was, also where it is nested in others. -/

namespace RangeSort

namespace InPlace

variable {ε ε' α β : Type} {s s' : Schema}

/-- What follows a look at the schema may depend on it. -/
theorem outcome_get_bind (f : Schema → InPlace ε β) (s : Schema) :
    (get >>= f).outcome s = (f s).outcome s := rfl

@[simp]
theorem outcome_modify (f : Schema → Schema) (s : Schema) :
    (modify f : InPlace ε PUnit).outcome s = (.ok (), f s) := rfl

@[simp]
theorem outcome_throw (fault : ε) (s : Schema) :
    (throw fault : InPlace ε α).outcome s = (.error fault, s) := rfl

@[simp]
theorem outcome_ofExcept (x : Except ε α) (s : Schema) :
    (ofExcept x : InPlace ε α).outcome s = (x, s) := by
  cases x <;> rfl

@[simp]
theorem outcome_adapt (f : ε → ε') (m : InPlace ε α) (s : Schema) :
    InPlace.outcome (ExceptT.adapt f m) s = ((m.outcome s).1.mapError f, (m.outcome s).2) := rfl

theorem result_eq_ok {change : InPlace ε Unit} :
    change.result s = .ok s' ↔ change.outcome s = (.ok (), s') := by
  rw [result]
  rcases change.outcome s with ⟨_ | _, left⟩ <;> simp [Except.map]

theorem result_adapt (f : ε → ε') (change : InPlace ε Unit) (s : Schema) :
    InPlace.result (ExceptT.adapt f change) s = (change.result s).mapError f := by
  rw [result, outcome_adapt, result]
  cases (change.outcome s).1 <;> rfl

/-- A change that fails leaves the schema as it was. -/
def Restores (change : InPlace ε Unit) : Prop :=
  ∀ s fault left, change.outcome s = (.error fault, left) → left = s

theorem restores_of_ok {change : InPlace ε Unit} (h : ∀ s, (change.outcome s).1 = .ok ()) :
    change.Restores := by
  intro s fault left hleft
  have hok := h s
  rw [hleft] at hok
  cases hok

theorem restores_throw (fault : ε) : Restores (throw fault : InPlace ε Unit) := by
  intro s _ left h
  cases h
  rfl

theorem Restores.get_bind {f : Schema → InPlace ε Unit} (h : ∀ s, (f s).Restores) :
    Restores (get >>= f) :=
  fun s => h s s

/-- A check changes nothing. -/
theorem Restores.check_bind {change : InPlace ε Unit} (h : change.Restores) (x : Except ε Unit) :
    Restores (ofExcept x >>= fun _ => change) := by
  cases x with
  | ok => exact h
  | error fault => exact restores_throw fault

theorem Restores.adapt {change : InPlace ε Unit} (h : change.Restores) (f : ε → ε') :
    Restores (ExceptT.adapt f change) := by
  intro s fault left hleft
  rw [outcome_adapt, Prod.mk.injEq] at hleft
  cases hfault : (change.outcome s).1 with
  | ok =>
    rw [hfault] at hleft
    cases hleft.1
  | error cause => exact h s cause left (Prod.ext hfault hleft.2)

end InPlace

open InPlace

namespace Schema

variable {s s' : Schema} {i : Nat} {d : Direction} {keys : List Nat} {directions : List Direction}
  {value : List Field} {edit : Field → Field} {change : InPlace EditFault Unit}

theorem outcome_setFields (value : List Field) (s : Schema) :
    (setFields value).outcome s =
      match s.keyOffsets.find? fun k => value.length ≤ k with
      | some k => (.error (.keyOutOfRange k value.length), s)
      | none =>
        match checkFields value with
        | .error fault => (.error fault, s)
        | .ok () => (.ok (), { s with fields := value }) := by
  rw [setFields, outcome_get_bind]
  cases s.keyOffsets.find? fun k => value.length ≤ k with
  | some k => rfl
  | none => cases checkFields value <;> rfl

theorem restores_setFields : (setFields value).Restores := by
  refine .get_bind fun s => ?_
  split
  · exact restores_throw _
  · exact (restores_of_ok fun s => rfl).check_bind _

theorem setFields_eq_ok :
    (setFields value).result s = .ok s' ↔ (∀ k ∈ s.keyOffsets, k < value.length) ∧
      checkFields value = .ok () ∧ s' = { s with fields := value } := by
  have hin : (∀ k ∈ s.keyOffsets, k < value.length) ↔
      s.keyOffsets.find? (fun k => value.length ≤ k) = none := by simp
  rw [hin, result_eq_ok, outcome_setFields]
  cases s.keyOffsets.find? fun k => value.length ≤ k with
  | some k => simp
  | none => cases checkFields value <;> simp [eq_comm]

/-- Offsets and directions are written one after the other, with nothing between that can fail. -/
theorem outcome_setSortKeys (keys : List Nat) (directions : List Direction) (s : Schema) :
    (setSortKeys keys directions).outcome s =
      if keys.length ≠ directions.length then
        (.error (.orderCount keys.length directions.length), s)
      else match keys.find? fun k => s.fields.length ≤ k with
        | some k => (.error (.keyOutOfRange k s.fields.length), s)
        | none => (.ok (), { s with keyOffsets := keys, keyDirections := directions }) := by
  rw [setSortKeys]
  by_cases hlength : keys.length ≠ directions.length
  · rw [if_pos hlength, if_pos hlength]
    rfl
  · rw [if_neg hlength, if_neg hlength, outcome_get_bind]
    dsimp only
    cases keys.find? fun k => s.fields.length ≤ k <;> rfl

theorem restores_setSortKeys : (setSortKeys keys directions).Restores := by
  unfold setSortKeys
  split
  · exact restores_throw _
  · refine .get_bind fun s => ?_
    dsimp only
    split
    · exact restores_throw _
    · exact restores_of_ok fun s => rfl

theorem withSortKeys_eq_ok :
    s.withSortKeys keys directions = .ok s' ↔ keys.length = directions.length ∧
      (∀ k ∈ keys, k < s.fields.length) ∧
      s' = { s with keyOffsets := keys, keyDirections := directions } := by
  have hin : (∀ k ∈ keys, k < s.fields.length) ↔
      keys.find? (fun k => s.fields.length ≤ k) = none := by simp
  rw [hin, withSortKeys, result_eq_ok, outcome_setSortKeys]
  by_cases hlength : keys.length = directions.length
  · rw [if_neg (not_not.mpr hlength)]
    cases keys.find? fun k => s.fields.length ≤ k with
    | some k => simp
    | none => simp [hlength, eq_comm]
  · simp [hlength]

theorem outcome_setDirection (i : Nat) (d : Direction) (s : Schema) :
    (setDirection i d).outcome s =
      if s.keyDirections.length ≤ i then (.error .noSortKey, s)
      else (.ok (), { s with keyDirections := s.keyDirections.set i d }) := by
  rw [setDirection, outcome_get_bind]
  by_cases hi : s.keyDirections.length ≤ i
  · rw [if_pos hi, if_pos hi, outcome_throw]
  · rw [if_neg hi, if_neg hi, outcome_modify]

theorem restores_setDirection : (setDirection i d).Restores := by
  refine .get_bind fun s => ?_
  split
  · exact restores_throw _
  · exact restores_of_ok fun s => rfl

theorem setDirection_eq_ok :
    (setDirection i d).result s = .ok s' ↔ i < s.keyDirections.length ∧
      s' = { s with keyDirections := s.keyDirections.set i d } := by
  rw [result_eq_ok, outcome_setDirection]
  by_cases hi : s.keyDirections.length ≤ i
  · simp [hi, Nat.not_lt.mpr hi]
  · simp [hi, Nat.not_le.mp hi, eq_comm]

theorem outcome_setField (edit : Field → Field) (i : Nat) (s : Schema) :
    (setField edit i).outcome s =
      match s.fields[i]? with
      | none => (.error .noField, s)
      | some f => (.ok (), { s with fields := s.fields.set i (edit f) }) := by
  rw [setField, outcome_get_bind]
  cases s.fields[i]? <;> rfl

theorem restores_setField : (setField edit i).Restores := by
  refine .get_bind fun s => ?_
  split
  · exact restores_throw _
  · exact restores_of_ok fun s => rfl

theorem setField_eq_ok :
    (setField edit i).result s = .ok s' ↔ ∃ f, s.fields[i]? = some f ∧
      s' = { s with fields := s.fields.set i (edit f) } := by
  rw [result_eq_ok, outcome_setField]
  cases hf : s.fields[i]? with
  | none => simp
  | some f => simp [eq_comm]

theorem outcome_within (i : Nat) (change : InPlace EditFault Unit) (s : Schema) :
    (within i change).outcome s =
      match s.fields[i]? with
      | none => (.error .noField, s)
      | some f =>
        match f.nested with
        | none => (.error .noNestedSchema, s)
        | some n =>
          ((change.outcome n).1,
            { s with fields := s.fields.set i { f with nested := some (change.outcome n).2 } }) := by
  rw [within, outcome_get_bind]
  cases s.fields[i]? with
  | none => rfl
  | some f =>
    rcases f with ⟨name, kind, description, _ | n⟩
    · rfl
    · exact outcome_ofExcept _ _

/-- What a nested change leaves is put back also when it fails. -/
theorem restores_within (h : change.Restores) : (within i change).Restores := by
  intro s fault left hleft
  rw [outcome_within] at hleft
  cases hf : s.fields[i]? with
  | none =>
    simp only [hf, Prod.mk.injEq] at hleft
    exact hleft.2.symm
  | some f =>
    rcases f with ⟨name, kind, description, _ | n⟩
    · simp only [hf, Prod.mk.injEq] at hleft
      exact hleft.2.symm
    · simp only [hf, Prod.mk.injEq] at hleft
      obtain ⟨hfault, rfl⟩ := hleft
      obtain ⟨hi, hf⟩ := List.getElem?_eq_some_iff.mp hf
      rw [h n fault (change.outcome n).2 (Prod.ext hfault rfl), ← hf, List.set_getElem_self]
      cases s
      rfl

theorem within_eq_ok :
    (within i change).result s = .ok s' ↔
      ∃ f n n', s.fields[i]? = some f ∧ f.nested = some n ∧ change.result n = .ok n' ∧
        s' = { s with fields := s.fields.set i { f with nested := some n' } } := by
  rw [result_eq_ok, outcome_within]
  cases hf : s.fields[i]? with
  | none => simp
  | some f =>
    cases hn : f.nested with
    | none => simp [hn]
    | some n =>
      simp only [hn, Prod.mk.injEq]
      constructor
      · rintro ⟨hdone, rfl⟩
        exact ⟨f, n, _, rfl, hn, result_eq_ok.mpr (Prod.ext hdone rfl), rfl⟩
      · rintro ⟨g, m, n', hg, hm, hn', rfl⟩
        cases hg
        cases hn.symm.trans hm
        rw [result_eq_ok.mp hn']
        exact ⟨rfl, rfl⟩

end Schema

end RangeSort
