import RangeSort.Proofs.Schema.Edit

/-! Schemas over any history of building, copying and editing, with steps that fail among the
others. Sort keys hold at every level of every schema, and a schema of which no field was changed
in place obeys the nesting rules. -/

namespace RangeSort

/-- What schemas are built from. -/
inductive Origin where
  | nothing
  | fields (fields : List Field)
  | logical (fields : List LogicalField)

namespace Origin

def build : Origin → Except SchemaFault Schema
  | nothing => .ok .empty
  | fields fs => Schema.ofFields? fs
  | logical fs => Schema.ofLogical? fs

/-- The schemas that are nested in the result as they are. -/
def schemas : Origin → List Schema
  | fields fs => fs.filterMap Field.nested
  | _ => []

theorem keysHold_and_check {o : Origin} {s : Schema} (hnew : ∀ n ∈ o.schemas, n.KeysHold)
    (h : o.build = .ok s) : s.KeysHold ∧ s.check = .ok () := by
  cases o with
  | nothing =>
    cases h
    exact ⟨Schema.keysHold_of_fields fun _ hf => absurd hf List.not_mem_nil, rfl⟩
  | fields fs =>
    obtain ⟨_, hcheck, h⟩ := Except.bind_eq_ok.mp h
    cases h
    refine ⟨Schema.keysHold_of_fields fun f hf n hn => ?_, hcheck⟩
    exact hnew n (List.mem_filterMap.mpr ⟨f, hf, hn⟩)
  | logical fs =>
    obtain ⟨gs, hgs, rfl⟩ := Except.map_eq_ok.mp h
    obtain ⟨-, hcheck, hkeys⟩ := of_toFields fs hgs
    exact ⟨Schema.keysHold_of_fields hkeys, hcheck⟩

end Origin

namespace Edit

/-- Whether an edit of the level at the path changes a field without a check of all around it.
The new fields of a nested schema are checked, but not against the field that nests it. -/
def inPlace (path : List Nat) : Edit → Bool
  | .field _ _ => true
  | .fields _ => !path.isEmpty
  | _ => false

theorem check_of_atLevel {e : Edit} {path : List Nat} {s s' : Schema}
    (he : e.inPlace path = false) (hs : s.check = .ok ())
    (h : (Schema.atLevel e.perform path).result s = .ok s') : s'.check = .ok () := by
  rw [atLevel_perform] at h
  cases e with
  | fields value =>
    obtain rfl : path = [] := by simpa [inPlace] using he
    obtain ⟨-, hcheck, rfl⟩ := change_fields_eq_ok.mp h
    exact hcheck
  | sortKeys keys directions =>
    refine (Schema.check_atLevel (fun n n' hn => ?_) hs h).1
    obtain ⟨-, -, rfl⟩ := change_sortKeys_eq_ok.mp hn
    rfl
  | direction i value =>
    refine (Schema.check_atLevel (fun n n' hn => ?_) hs h).1
    obtain ⟨-, rfl⟩ := Schema.setDirection_eq_ok.mp hn
    rfl
  | version value =>
    refine (Schema.check_atLevel (fun n n' hn => ?_) hs h).1
    cases hn
    rfl
  | field path edits => cases he

end Edit

/-- A schema that is kept, and whether a field was changed in place, in it or in what it was
copied from. -/
structure Entry where
  schema : Schema
  touched : Bool

structure Entry.Sound (e : Entry) : Prop where
  keys : e.schema.KeysHold
  nesting : e.touched = false → e.schema.check = .ok ()

abbrev Catalog := List Entry

/-- Schemas are built, copied from a level of another one, and edited at a level. -/
inductive Action where
  | build (origin : Origin)
  | copy (index : Nat) (path : List Nat)
  | edit (index : Nat) (path : List Nat) (change : Edit)

/-- The schemas that an action puts into others. -/
def Action.schemas : Action → List Schema
  | .build origin => origin.schemas
  | .copy _ _ => []
  | .edit _ _ change => change.schemas

/-- What an action does when it succeeds. -/
def Action.Does : Action → Catalog → Catalog → Prop
  | .build origin, kept, kept' => ∃ s, origin.build = .ok s ∧ kept' = kept ++ [⟨s, false⟩]
  | .copy i path, kept, kept' => ∃ e n, kept[i]? = some e ∧ e.schema.level path = some n ∧
      kept' = kept ++ [⟨n, e.touched⟩]
  | .edit i path change, kept, kept' => ∃ e s, kept[i]? = some e ∧ change.Made path e.schema s ∧
      kept' = kept.set i ⟨s, e.touched || change.inPlace path⟩

namespace Catalog

/-- Whether an action succeeds, and the catalog that it leaves. An edit is made on a kept schema,
and what it leaves there is kept. -/
def perform (kept : Catalog) : Action → Bool × Catalog
  | .build origin =>
    match origin.build with
    | .error _ => (false, kept)
    | .ok s => (true, kept ++ [⟨s, false⟩])
  | .copy i path =>
    match kept[i]? with
    | none => (false, kept)
    | some e =>
      match e.schema.level path with
      | none => (false, kept)
      | some n => (true, kept ++ [⟨n, e.touched⟩])
  | .edit i path change =>
    match kept[i]? with
    | none => (false, kept)
    | some e =>
      let (done, left) := (Schema.atLevel change.perform path).outcome e.schema
      (done.isOk, kept.set i ⟨left, e.touched || (done.isOk && change.inPlace path)⟩)

/-- The catalogs of all histories. What is put into a schema is a schema of the catalog. -/
inductive Reached : Catalog → Prop
  | nothing : Reached []
  | action {kept : Catalog} {a : Action} (hkept : Reached kept)
      (ha : ∀ n ∈ a.schemas, ∃ e ∈ kept, e.schema = n) : Reached (kept.perform a).2

variable {a : Action} {i : Nat} {path : List Nat}

theorem perform_build (kept : Catalog) (o : Origin) :
    (∃ s, o.build = .ok s ∧ kept.perform (.build o) = (true, kept ++ [⟨s, false⟩])) ∨
      (∃ fault, o.build = .error fault) ∧ kept.perform (.build o) = (false, kept) := by
  rw [perform]
  cases o.build with
  | ok s => exact .inl ⟨s, rfl, rfl⟩
  | error fault => exact .inr ⟨⟨fault, rfl⟩, rfl⟩

theorem perform_copy (kept : Catalog) (i : Nat) (path : List Nat) :
    (∃ e n, kept[i]? = some e ∧ e.schema.level path = some n ∧
        kept.perform (.copy i path) = (true, kept ++ [⟨n, e.touched⟩])) ∨
      (∀ e, kept[i]? = some e → e.schema.level path = none) ∧
        kept.perform (.copy i path) = (false, kept) := by
  rw [perform]
  cases kept[i]? with
  | none => exact .inr ⟨nofun, rfl⟩
  | some e =>
    cases hn : e.schema.level path with
    | none => exact .inr ⟨fun e' he => by cases he; exact hn, by simp only [hn]⟩
    | some n => exact .inl ⟨e, n, rfl, hn, by simp only [hn]⟩

/-- An edit that fails puts back what was kept, because it leaves that. -/
theorem perform_edit (kept : Catalog) (i : Nat) (path : List Nat) (change : Edit) :
    (∃ e s, kept[i]? = some e ∧ (Schema.atLevel change.perform path).result e.schema = .ok s ∧
        kept.perform (.edit i path change) =
          (true, kept.set i ⟨s, e.touched || change.inPlace path⟩)) ∨
      (∀ e, kept[i]? = some e →
        ∃ fault, (Schema.atLevel change.perform path).result e.schema = .error fault) ∧
        kept.perform (.edit i path change) = (false, kept) := by
  rw [perform]
  cases he : kept[i]? with
  | none => exact .inr ⟨nofun, rfl⟩
  | some e =>
    dsimp only
    rcases houtcome : (Schema.atLevel change.perform path).outcome e.schema with ⟨fault | _, left⟩
    · refine .inr ⟨fun e' he' => ⟨fault, ?_⟩, ?_⟩
      · cases he'
        rw [InPlace.result, houtcome]
        rfl
      · obtain ⟨hi, rfl⟩ := List.getElem?_eq_some_iff.mp he
        obtain rfl := Edit.restores_atLevel change path _ fault left houtcome
        have hsame : kept.set i ⟨kept[i].schema, kept[i].touched || false⟩ = kept := by
          rw [Bool.or_false]
          exact List.set_getElem_self hi
        exact congrArg (false, ·) hsame
    · exact .inl ⟨e, left, rfl, InPlace.result_eq_ok.mpr houtcome, rfl⟩

variable {kept kept' : Catalog}

theorem does_of_perform (h : kept.perform a = (true, kept')) : a.Does kept kept' := by
  cases a with
  | build o =>
    rcases perform_build kept o with ⟨s, hs, hp⟩ | ⟨-, hp⟩ <;> cases hp.symm.trans h
    exact ⟨s, hs, rfl⟩
  | copy i path =>
    rcases perform_copy kept i path with ⟨e, n, he, hn, hp⟩ | ⟨-, hp⟩ <;> cases hp.symm.trans h
    exact ⟨e, n, he, hn, rfl⟩
  | edit i path change =>
    rcases perform_edit kept i path change with ⟨e, s, he, hs, hp⟩ | ⟨-, hp⟩ <;>
      cases hp.symm.trans h
    exact ⟨e, s, he, Edit.made_of_atLevel hs, rfl⟩

/-- An action that is refused cannot be done, and it leaves all as it was. -/
theorem not_does_of_perform (h : kept.perform a = (false, kept')) :
    kept' = kept ∧ ∀ next, ¬ a.Does kept next := by
  cases a with
  | build o =>
    rcases perform_build kept o with ⟨s, -, hp⟩ | ⟨⟨fault, hfault⟩, hp⟩ <;> cases hp.symm.trans h
    refine ⟨rfl, fun next ⟨s, hs, _⟩ => ?_⟩
    cases hfault.symm.trans hs
  | copy i path =>
    rcases perform_copy kept i path with ⟨e, n, -, -, hp⟩ | ⟨hnone, hp⟩ <;> cases hp.symm.trans h
    refine ⟨rfl, fun next ⟨e, n, he, hn, _⟩ => ?_⟩
    cases (hnone e he).symm.trans hn
  | edit i path change =>
    rcases perform_edit kept i path change with ⟨e, s, -, -, hp⟩ | ⟨hrefused, hp⟩ <;>
      cases hp.symm.trans h
    refine ⟨rfl, fun next ⟨e, s, he, hmade, _⟩ => ?_⟩
    obtain ⟨fault, hfault⟩ := hrefused e he
    obtain ⟨t, ht⟩ := Edit.exists_atLevel_of_made hmade
    cases hfault.symm.trans ht

theorem sound_of_perform (hkept : ∀ e ∈ kept, e.Sound)
    (ha : ∀ n ∈ a.schemas, ∃ e ∈ kept, e.schema = n) : ∀ e ∈ (kept.perform a).2, e.Sound := by
  -- What is put in was kept in the catalog before, where the invariant holds of it.
  have hnew : ∀ n ∈ a.schemas, n.KeysHold := by
    intro n hn
    obtain ⟨e, he, rfl⟩ := ha n hn
    exact (hkept e he).keys
  cases a with
  | build o =>
    rcases perform_build kept o with ⟨s, hs, hp⟩ | ⟨-, hp⟩ <;> rw [hp]
    · obtain ⟨hkeys, hcheck⟩ := Origin.keysHold_and_check hnew hs
      rw [List.forall_mem_append, List.forall_mem_singleton]
      exact ⟨hkept, hkeys, fun _ => hcheck⟩
    · exact hkept
  | copy i path =>
    rcases perform_copy kept i path with ⟨e, n, he, hn, hp⟩ | ⟨-, hp⟩ <;> rw [hp]
    · obtain ⟨hkeys, hnesting⟩ := hkept e (List.mem_of_getElem? he)
      rw [List.forall_mem_append, List.forall_mem_singleton]
      exact ⟨hkept, hkeys.level hn, fun ht => Schema.check_level (hnesting ht) hn⟩
    · exact hkept
  | edit i path change =>
    rcases perform_edit kept i path change with ⟨e, s, he, hs, hp⟩ | ⟨-, hp⟩ <;> rw [hp]
    · obtain ⟨hkeys, hnesting⟩ := hkept e (List.mem_of_getElem? he)
      intro e' he'
      rcases List.mem_or_eq_of_mem_set he' with he' | rfl
      · exact hkept e' he'
      · refine ⟨Edit.keysHold_of_atLevel hnew hkeys hs, fun ht => ?_⟩
        obtain ⟨htouched, hplace⟩ := Bool.or_eq_false_iff.mp ht
        exact Edit.check_of_atLevel hplace (hnesting htouched) hs
    · exact hkept

theorem Reached.sound (h : Reached kept) : ∀ e ∈ kept, e.Sound := by
  induction h with
  | nothing => exact fun _ he => absurd he List.not_mem_nil
  | action _ ha ih => exact sound_of_perform ih ha

/-- All schemas of a history are sound. The next action does what it names and nothing else, or
it fails, and then it could not be done and changes nothing. -/
theorem Reached.sound_and_does (h : Reached kept) :
    (∀ e ∈ kept, e.Sound) ∧ ∀ a,
      (∃ kept', kept.perform a = (true, kept') ∧ a.Does kept kept') ∨
        kept.perform a = (false, kept) ∧ ∀ kept', ¬ a.Does kept kept' := by
  refine ⟨h.sound, fun a => ?_⟩
  rcases hp : kept.perform a with ⟨_ | _, kept'⟩
  · obtain ⟨rfl, hnot⟩ := not_does_of_perform hp
    exact .inr ⟨rfl, hnot⟩
  · exact .inl ⟨kept', rfl, does_of_perform hp⟩

def countedFields : List LogicalField :=
  [⟨some "counts", .bag,
      some [⟨none, .tuple, some [⟨some "n", .int, none⟩, ⟨some "word", .text, none⟩]⟩]⟩,
    ⟨some "id", .long, none⟩]

/-- The elements of the bag, by word. -/
def sortedElements : Schema :=
  ⟨0, [⟨some "n", .int, some generatedDescription, none⟩,
      ⟨some "word", .text, some generatedDescription, none⟩], [1], [.ascending]⟩

/-- The elements are copied out of a bag, sorted, and put back. -/
def countedHistory : Catalog :=
  ([.build (.logical countedFields),
    .edit 0 [] (.sortKeys [1] [.descending]),
    .copy 0 [0, 0],
    .edit 1 [] (.sortKeys [1] [.ascending]),
    .edit 0 [0] (.field [0] [.nested (some sortedElements)])] : List Action).foldl
      (fun kept a => (kept.perform a).2) []

theorem Reached.sound_and_does_counted :
    Reached countedHistory ∧ (∀ e ∈ countedHistory, e.Sound) ∧
      countedHistory.map Entry.touched = [true, false] ∧
      countedHistory.perform (.edit 0 [] (.fields [])) = (false, countedHistory) ∧
      ∃ kept', countedHistory.perform (.edit 0 [0, 0] (.direction 0 .descending)) = (true, kept') ∧
        Action.Does (.edit 0 [0, 0] (.direction 0 .descending)) countedHistory kept' := by
  have hbuilt := Reached.nothing.action (a := .build (.logical countedFields)) nofun
  have hsorted := hbuilt.action (a := .edit 0 [] (.sortKeys [1] [.descending])) nofun
  have hcopied := hsorted.action (a := .copy 0 [0, 0]) nofun
  have hordered := hcopied.action (a := .edit 1 [] (.sortKeys [1] [.ascending])) nofun
  have hreached : Reached countedHistory := by
    refine hordered.action (a := .edit 0 [0] (.field [0] [.nested (some sortedElements)])) ?_
    intro n hn
    obtain rfl := List.mem_singleton.mp hn
    exact ⟨⟨sortedElements, false⟩, .tail _ (.head _), rfl⟩
  obtain ⟨hsound, hdoes⟩ := Reached.sound_and_does hreached
  refine ⟨hreached, hsound, rfl, ?_, ?_⟩
  · rcases hdoes (.edit 0 [] (.fields [])) with ⟨kept', h, -⟩ | ⟨h, -⟩
    · cases h
    · exact h
  · rcases hdoes (.edit 0 [0, 0] (.direction 0 .descending)) with hdone | ⟨h, -⟩
    · exact hdone
    · cases h

end Catalog

end RangeSort
