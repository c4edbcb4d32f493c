import RangeSort.Proofs.Schema.Levels
import RangeSort.Schema.Logical

/-! The nesting rules pass from a schema to all that is nested in it. Declared layouts become
schemas that obey them, without sort keys at any level. -/

namespace RangeSort

theorem Schema.check_eq (s : Schema) : s.check = checkFields s.fields := by
  obtain ⟨version, fields, offsets, directions⟩ := s
  rfl

theorem checkFields_eq_ok {fs : List Field} :
    checkFields fs = .ok () ↔ ∀ f ∈ fs, f.check = .ok () := by
  induction fs with
  | nil => simp [checkFields]
  | cons f fs ih =>
    rw [checkFields, Except.bind_eq_ok, List.forall_mem_cons, ← ih]
    exact ⟨fun ⟨_, hf, hfs⟩ => ⟨hf, hfs⟩, fun ⟨hf, hfs⟩ => ⟨(), hf, hfs⟩⟩

theorem checkElement_eq_ok {name : String} {kinds : List Kind} {u : Unit} :
    checkElement name kinds = .ok u ↔ kinds = [.tuple] := by
  unfold checkElement
  split <;> simp_all

/-- Only tuples and bags nest, and a bag nests a tuple, if anything. -/
theorem checkNested_eq_ok {name : String} {kind : Kind} {s : Schema} :
    checkNested name kind (some s) = .ok () ↔
      s.check = .ok () ∧
        (kind = .tuple ∨ kind = .bag ∧ (s.fields = [] ∨ s.fields.map Field.kind = [.tuple])) := by
  cases kind with
  | tuple => simp [checkNested]
  | bag =>
    cases hs : s.fields with
    | nil => simp [checkNested, hs]
    | cons f fs => simp [checkNested, hs, Except.bind_eq_ok, checkElement_eq_ok, and_comm]
  | _ => simp [checkNested]

namespace Schema

theorem check_level {s n : Schema} {path : List Nat} (h : s.check = .ok ())
    (hn : s.level path = some n) : n.check = .ok () := by
  induction path generalizing s with
  | nil =>
    cases hn
    exact h
  | cons i path ih =>
    obtain ⟨⟨name, kind, description, nested⟩, m, hf, rfl, hn⟩ := level_cons_eq_some.mp hn
    rw [check_eq, checkFields_eq_ok] at h
    have hfield := h _ (List.mem_of_getElem? hf)
    exact ih (checkNested_eq_ok.mp hfield).1 hn

/-- A change that keeps the fields of a level keeps the nesting rules at all levels above it. -/
theorem check_atLevel {change : InPlace EditFault Unit} {s s' : Schema}
    {path : List Nat} (hchange : ∀ n n', change.result n = .ok n' → n'.fields = n.fields)
    (hs : s.check = .ok ()) (h : (atLevel change path).result s = .ok s') :
    s'.check = .ok () ∧ s'.fields.map Field.kind = s.fields.map Field.kind := by
  -- A bag checks the kinds of the fields below it, so they are carried along the path.
  induction path generalizing s s' with
  | nil =>
    have hfields := hchange s s' h
    rw [check_eq, hfields]
    exact ⟨(check_eq s).symm.trans hs, rfl⟩
  | cons i path ih =>
    obtain ⟨⟨name, kind, description, nested⟩, m, m', hf, rfl, hm', rfl⟩ :=
      within_eq_ok.mp h
    rw [check_eq, checkFields_eq_ok] at hs ⊢
    obtain ⟨hm, hkind⟩ := checkNested_eq_ok.mp (hs _ (List.mem_of_getElem? hf))
    obtain ⟨hcheck, hkinds⟩ := ih hm hm'
    have hempty : m'.fields = [] ↔ m.fields = [] := by
      rw [← List.map_eq_nil_iff, hkinds, List.map_eq_nil_iff]
    constructor
    · intro g hg
      rcases List.mem_or_eq_of_mem_set hg with hg | rfl
      · exact hs g hg
      · refine checkNested_eq_ok.mpr ⟨hcheck, ?_⟩
        rwa [hempty, hkinds]
    · exact map_set_of_eq hf rfl

theorem keysHold_of_fields {version : Int} {fs : List Field} (h : NestedKeysHold fs) :
    KeysHold ⟨version, fs, [], []⟩ :=
  keysHold_iff.mpr ⟨⟨rfl, fun _ hk => absurd hk List.not_mem_nil⟩, h⟩

end Schema

mutual

theorem LogicalField.of_toField : (f : LogicalField) → {g : Field} → f.toField = .ok g →
    g.kind = f.kind ∧ g.check = .ok () ∧ ∀ n, g.nested = some n → n.KeysHold
  | ⟨name, kind, nested⟩, g, h => by
    rw [LogicalField.toField] at h
    obtain ⟨s, hs, rfl⟩ := Except.map_eq_ok.mp h
    obtain ⟨hcheck, hkeys⟩ := of_nestedSchema nested hs
    exact ⟨rfl, hcheck, hkeys⟩
termination_by structural f => f

theorem of_nestedSchema : (nested : Option (List LogicalField)) → {name : Option String} →
    {kind : Kind} → {s : Option Schema} → nestedSchema name kind nested = .ok s →
    checkNested (name.getD "") kind s = .ok () ∧ ∀ n, s = some n → n.KeysHold
  | none, name, kind, s, h => by
    cases h
    have hempty : Schema.KeysHold .empty := Schema.keysHold_of_fields fun _ hf => nomatch hf
    cases kind with
    | tuple | bag => exact ⟨rfl, fun n hn => by cases hn; exact hempty⟩
    | _ => exact ⟨rfl, fun n hn => nomatch hn⟩
  | some fields, name, kind, s, h => by
    rw [nestedSchema] at h
    cases kind with
    | tuple =>
      obtain ⟨gs, hgs, h⟩ := Except.bind_eq_ok.mp h
      cases h
      obtain ⟨-, hcheck, hnested⟩ := of_toFields fields hgs
      refine ⟨checkNested_eq_ok.mpr ⟨hcheck, .inl rfl⟩, fun n hn => ?_⟩
      cases hn
      exact Schema.keysHold_of_fields hnested
    | bag =>
      have h : (checkElement (name.getD "") (fields.map LogicalField.kind) >>= fun _ =>
          toFields fields >>= fun gs => .ok (some ⟨0, gs, [], []⟩)) = .ok s := h
      obtain ⟨_, helement, h⟩ := Except.bind_eq_ok.mp h
      obtain ⟨gs, hgs, h⟩ := Except.bind_eq_ok.mp h
      cases h
      obtain ⟨hkinds, hcheck, hnested⟩ := of_toFields fields hgs
      have htuple := hkinds.trans (checkElement_eq_ok.mp helement)
      refine ⟨checkNested_eq_ok.mpr ⟨hcheck, .inr ⟨rfl, .inr htuple⟩⟩, fun n hn => ?_⟩
      cases hn
      exact Schema.keysHold_of_fields hnested
    | _ =>
      cases h
      exact ⟨rfl, fun n hn => nomatch hn⟩
termination_by structural nested => nested

theorem of_toFields : (fs : List LogicalField) → {gs : List Field} → toFields fs = .ok gs →
    gs.map Field.kind = fs.map LogicalField.kind ∧ checkFields gs = .ok () ∧ NestedKeysHold gs
  | [], gs, h => by
    cases h
    exact ⟨rfl, rfl, fun _ hf => nomatch hf⟩
  | f :: fs, gs, h => by
    rw [toFields] at h
    obtain ⟨g, hg, h⟩ := Except.bind_eq_ok.mp h
    obtain ⟨rest, hrest, h⟩ := Except.bind_eq_ok.mp h
    cases h
    obtain ⟨hkind, hcheck, hkeys⟩ := LogicalField.of_toField f hg
    obtain ⟨hkinds, hchecks, hnested⟩ := of_toFields fs hrest
    rw [checkFields_eq_ok] at hchecks ⊢
    exact ⟨congrArg₂ List.cons hkind hkinds, List.forall_mem_cons.mpr ⟨hcheck, hchecks⟩,
      List.forall_mem_cons.mpr ⟨hkeys, hnested⟩⟩
termination_by structural fs => fs

end

end RangeSort
