import RangeSort.Proofs.Schema.InPlace

/-! The levels of a schema, which are the schema and all that are nested in it, each at its path
of field offsets. A change at one level shows at no other that is not nested in it, and sort
keys that are in range at every level stay so when the change keeps them in range. -/

namespace RangeSort

/-- What does not show in a projection of a list. -/
theorem map_set_of_eq {α β : Type} {g : α → β} {l : List α} {i : Nat} {a b : α}
    (ha : l[i]? = some a) (hg : g b = g a) : (l.set i b).map g = l.map g := by
  obtain ⟨hi, rfl⟩ := List.getElem?_eq_some_iff.mp ha
  rw [List.map_set, hg, ← List.map_set, List.set_getElem_self]

def Field.bare (f : Field) : Field := { f with nested := none }

namespace Schema

/-- The schema nested in the field that the offsets lead to, the schema itself for none. -/
def level : List Nat → Schema → Option Schema
  | [], s => some s
  | i :: path, s => (s.fields[i]?.bind Field.nested).bind (level path)

theorem level_cons_of {s n : Schema} {f : Field} {i : Nat} (hf : s.fields[i]? = some f)
    (hn : f.nested = some n) (path : List Nat) : s.level (i :: path) = n.level path := by
  rw [level, hf, Option.bind_some, hn, Option.bind_some]

theorem level_cons_eq_some {s n : Schema} {i : Nat} {path : List Nat} :
    s.level (i :: path) = some n ↔
      ∃ f m, s.fields[i]? = some f ∧ f.nested = some m ∧ m.level path = some n := by
  simp only [level, Option.bind_eq_some_iff]
  constructor
  · rintro ⟨m, ⟨f, hf, hm⟩, hn⟩
    exact ⟨f, m, hf, hm, hn⟩
  · rintro ⟨f, m, hf, hm, hn⟩
    exact ⟨m, ⟨f, hf, hm⟩, hn⟩

/-- What a level shows without the levels below it. -/
def outline (s : Schema) : Schema :=
  { s with fields := s.fields.map Field.bare }

variable {change : InPlace EditFault Unit} {s s' : Schema} {path : List Nat}

theorem atLevel_append (p q : List Nat) :
    atLevel change (p ++ q) = atLevel (atLevel change q) p := by
  induction p with
  | nil => rfl
  | cons i p ih => rw [List.cons_append, atLevel, ih, atLevel]

/-- Changing a field in place is a change at the level that holds it. -/
theorem editField_append (edit : Field → Field) (path : List Nat) (i : Nat) :
    editField edit (path ++ [i]) = atLevel (setField edit i) path := by
  induction path with
  | nil => rfl
  | cons j path ih =>
    obtain ⟨k, rest, hrest⟩ := List.exists_cons_of_ne_nil (List.concat_ne_nil i path)
    rw [List.cons_append, hrest, editField, ← hrest, ih, atLevel]
    exact List.cons_ne_nil k rest

theorem restores_atLevel (h : change.Restores) (path : List Nat) :
    (atLevel change path).Restores := by
  induction path with
  | nil => exact h
  | cons i path ih => exact restores_within ih

theorem level_atLevel (h : (atLevel change path).result s = .ok s') :
    ∃ n n', s.level path = some n ∧ change.result n = .ok n' ∧ s'.level path = some n' := by
  induction path generalizing s s' with
  | nil => exact ⟨s, s', rfl, h, rfl⟩
  | cons i path ih =>
    obtain ⟨f, m, m', hf, hm, hm', rfl⟩ := within_eq_ok.mp h
    obtain ⟨n, n', hn, hchange, hn'⟩ := ih hm'
    obtain ⟨hi, -⟩ := List.getElem?_eq_some_iff.mp hf
    refine ⟨n, n', (level_cons_of hf hm path).trans hn, hchange, ?_⟩
    exact (level_cons_of (List.getElem?_set_self hi) rfl path).trans hn'

theorem exists_atLevel {n n' : Schema} (hn : s.level path = some n)
    (h : change.result n = .ok n') : ∃ s', (atLevel change path).result s = .ok s' := by
  induction path generalizing s with
  | nil =>
    cases hn
    exact ⟨n', h⟩
  | cons i path ih =>
    obtain ⟨f, m, hf, hm, hn⟩ := level_cons_eq_some.mp hn
    obtain ⟨m', hm'⟩ := ih hn
    exact ⟨_, within_eq_ok.mpr ⟨f, m, m', hf, hm, hm', rfl⟩⟩

/-- All other levels look the same, apart from those that are nested in the changed one. -/
theorem outline_level_atLevel (h : (atLevel change path).result s = .ok s') {q : List Nat}
    (hq : ¬ path <+: q) : (s'.level q).map outline = (s.level q).map outline := by
  induction path generalizing s s' q with
  | nil => exact absurd List.nil_prefix hq
  | cons i path ih =>
    obtain ⟨f, m, m', hf, hm, hm', rfl⟩ := within_eq_ok.mp h
    cases q with
    | nil =>
      -- The level that holds the changed one differs from before only in what is nested.
      have hbare : (s.fields.set i { f with nested := some m' }).map Field.bare =
          s.fields.map Field.bare := map_set_of_eq hf rfl
      simp only [level, outline, Option.map_some, hbare]
    | cons j q =>
      by_cases hij : i = j
      · subst hij
        have hrest : ¬ path <+: q := fun hp => hq (List.cons_prefix_cons.mpr ⟨rfl, hp⟩)
        obtain ⟨hi, -⟩ := List.getElem?_eq_some_iff.mp hf
        rw [level_cons_of hf hm, level_cons_of (List.getElem?_set_self hi) rfl]
        exact ih hm' hrest
      · simp only [level, List.getElem?_set_ne hij]

/-- There is a direction for each sort key, and sort keys are offsets of fields. -/
structure KeysFit (s : Schema) : Prop where
  directions : s.keyOffsets.length = s.keyDirections.length
  offsets : ∀ k ∈ s.keyOffsets, k < s.fields.length

/-- Sort keys fit at every level. -/
def KeysHold (s : Schema) : Prop :=
  ∀ path n, s.level path = some n → n.KeysFit

end Schema

/-- Sort keys hold in all that is nested in the fields. -/
def NestedKeysHold (fs : List Field) : Prop :=
  ∀ f ∈ fs, ∀ n, f.nested = some n → n.KeysHold

theorem NestedKeysHold.set {fs : List Field} (h : NestedKeysHold fs) (i : Nat) {f : Field}
    (hf : ∀ n, f.nested = some n → n.KeysHold) : NestedKeysHold (fs.set i f) := by
  intro g hg
  rcases List.mem_or_eq_of_mem_set hg with hg | rfl
  · exact h g hg
  · exact hf

namespace Schema

variable {change : InPlace EditFault Unit} {s s' : Schema} {path : List Nat}

theorem keysHold_iff : s.KeysHold ↔ s.KeysFit ∧ NestedKeysHold s.fields := by
  constructor
  · intro h
    refine ⟨h [] s rfl, fun f hf m hm => ?_⟩
    obtain ⟨i, hi, rfl⟩ := List.mem_iff_getElem.mp hf
    intro path n hn
    have hfield := List.getElem?_eq_getElem hi
    exact h (i :: path) n ((level_cons_of hfield hm path).trans hn)
  · rintro ⟨hfit, hnested⟩ path n hn
    cases path with
    | nil =>
      cases hn
      exact hfit
    | cons i path =>
      obtain ⟨f, m, hf, hm, hn⟩ := level_cons_eq_some.mp hn
      exact hnested f (List.mem_of_getElem? hf) m hm path n hn

theorem KeysHold.level (h : s.KeysHold) {n : Schema} (hn : s.level path = some n) :
    n.KeysHold := by
  induction path generalizing s with
  | nil =>
    cases hn
    exact h
  | cons i path ih =>
    obtain ⟨f, m, hf, hm, hn⟩ := level_cons_eq_some.mp hn
    exact ih ((keysHold_iff.mp h).2 f (List.mem_of_getElem? hf) m hm) hn

/-- The sort keys of the levels above stay in range, because these keep the number of fields. -/
theorem KeysHold.atLevel (hchange : ∀ n n', n.KeysHold → change.result n = .ok n' → n'.KeysHold)
    (h : s.KeysHold) (hs : (atLevel change path).result s = .ok s') : s'.KeysHold := by
  induction path generalizing s s' with
  | nil => exact hchange s s' h hs
  | cons i path ih =>
    obtain ⟨f, m, m', hf, hm, hm', rfl⟩ := within_eq_ok.mp hs
    obtain ⟨⟨hlength, hrange⟩, hnested⟩ := keysHold_iff.mp h
    have hm' := ih (hnested f (List.mem_of_getElem? hf) m hm) hm'
    refine keysHold_iff.mpr ⟨⟨hlength, fun k hk => ?_⟩, hnested.set i fun n hn => ?_⟩
    · rw [List.length_set]
      exact hrange k hk
    · cases hn
      exact hm'

end Schema

end RangeSort
