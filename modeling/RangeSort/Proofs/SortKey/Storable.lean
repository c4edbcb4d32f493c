import RangeSort.Proofs.Schema.Conformity

/-! Which sort keys have columns. A key is refused for a field of its own that is a map, but not
for the maps further inside, for which there is no column either. -/

namespace RangeSort

/-- The fields whose values are stored in the column of a field, at any depth. -/
inductive Field.Contains : Field → Field → Prop
  | self (f : Field) : Contains f f
  | item {f g m : Field} (hf : f.kind = .tuple) (hg : g ∈ f.itemFields) (h : Contains g m) :
      Contains f m
  | element {f g m : Field} (hf : f.kind = .bag) (hg : g ∈ f.elementFields) (h : Contains g m) :
      Contains f m

def Field.MapFree (f : Field) : Prop :=
  ∀ m, f.Contains m → m.kind ≠ .map

/-- The fault is about a map in one of the fields. -/
def NamesMap (fs : List Field) (fault : SchemaFault) : Prop :=
  ∃ f ∈ fs, ∃ m, f.Contains m ∧ m.kind = .map ∧ fault = .mapColumn m.label

theorem columnInduction_mapFree :
    ColumnInduction (fun f _ => f.MapFree) fun fs _ => ∀ f ∈ fs, f.MapFree where
  plain f type hf h m hm := by
    cases hm with
    | self =>
      intro hmap
      rw [hmap] at h
      cases h
    | item hk => simp [hk, Kind.isNested] at hf
    | element hk => simp [hk, Kind.isNested] at hf
  tuple f inner hf h m hm := by
    cases hm with
    | self => simp [hf]
    | item _ hg hm => exact h _ hg m hm
    | element hk => cases hf.symm.trans hk
  bag f inner _ _ hf h m hm := by
    cases hm with
    | self => simp [hf]
    | item hk => cases hf.symm.trans hk
    | element _ hg hm => exact h _ hg m hm
  nil := nofun
  cons f fs _ _ _ _ hf hfs := List.forall_mem_cons.mpr ⟨hf, hfs⟩

theorem NamesMap.item {f : Field} {fault : SchemaFault} (hf : f.kind = .tuple)
    (h : NamesMap f.itemFields fault) : NamesMap [f] fault := by
  obtain ⟨g, hg, m, hm, hmap⟩ := h
  exact ⟨f, List.mem_singleton_self f, m, .item hf hg hm, hmap⟩

theorem NamesMap.element {f : Field} {fault : SchemaFault} (hf : f.kind = .bag)
    (h : NamesMap f.elementFields fault) : NamesMap [f] fault := by
  obtain ⟨g, hg, m, hm, hmap⟩ := h
  exact ⟨f, List.mem_singleton_self f, m, .element hf hg hm, hmap⟩

theorem NamesMap.mono {fs gs : List Field} {fault : SchemaFault} (h : NamesMap fs fault)
    (hsub : fs ⊆ gs) : NamesMap gs fault := by
  obtain ⟨f, hf, hmap⟩ := h
  exact ⟨f, hsub hf, hmap⟩

theorem columnsFrom_namesMap {fs : List Field}
    (hfs : ∀ f ∈ fs, ∀ {fault : SchemaFault}, f.column = .error fault → NamesMap [f] fault)
    {index : Nat} {fault : SchemaFault} (h : columnsFrom index fs = .error fault) :
    NamesMap fs fault := by
  induction fs generalizing index with
  | nil => cases h
  | cons f fs ih =>
    rw [List.forall_mem_cons] at hfs
    rcases Except.bind_eq_error.mp h with hf | ⟨type, -, h⟩
    · exact (hfs.1 hf).mono (by simp)
    · rcases Except.bind_eq_error.mp h with hrest | ⟨rest, -, h⟩
      · exact (ih hfs.2 hrest).mono (List.subset_cons_self f fs)
      · cases h

theorem columnType_eq_error {name : String} {inner : List ColumnField} {kind : Kind}
    {fault : SchemaFault} (h : columnType name inner kind = .error fault) :
    kind = .map ∧ fault = .mapColumn name := by
  cases kind with
  | map =>
    cases h
    exact ⟨rfl, rfl⟩
  | _ => cases h

theorem Field.namesMap (f : Field) {fault : SchemaFault} (h : f.column = .error fault) :
    NamesMap [f] fault := by
  induction f using Field.induction generalizing fault with
  | h f hitems helements =>
    rcases f.kind.plain_or_nested with hplain | hk | hk
    · rw [Field.column_plain hplain] at h
      obtain ⟨hmap, rfl⟩ := columnType_eq_error h
      exact ⟨f, List.mem_singleton_self f, f, .self f, hmap, rfl⟩
    · rw [Field.column_tuple hk] at h
      exact .item hk (columnsFrom_namesMap hitems (Except.map_eq_error.mp h))
    · rw [Field.column_bag hk] at h
      exact .element hk (columnsFrom_namesMap helements (Except.map_eq_error.mp h))

theorem Schema.namesMap (s : Schema) {fault : SchemaFault} (h : s.columns = .error fault) :
    NamesMap s.fields fault := by
  rw [Schema.columns_eq] at h
  exact columnsFrom_namesMap (fun f _ _ => f.namesMap) h

theorem Schema.columns_eq_ok_iff (s : Schema) :
    (∃ fields, s.columns = .ok fields) ↔ ∀ f ∈ s.fields, f.MapFree := by
  constructor
  · rintro ⟨fields, hfields⟩
    exact columnInduction_mapFree.schema s hfields
  · intro h
    cases hcolumns : s.columns with
    | ok fields => exact ⟨fields, rfl⟩
    | error fault =>
      obtain ⟨f, hf, m, hm, hmap, -⟩ := s.namesMap hcolumns
      exact absurd hmap (h f hf m hm)

theorem Field.kind_ne_map_of_resolve {whole path : List Nat} {f g : Field}
    (h : f.resolve whole path = .ok g) : g.kind ≠ .map := by
  induction path generalizing f with
  | nil =>
    rw [Field.resolve] at h
    split at h
    · cases h
    · rename_i hf
      cases h
      exact hf
  | cons i path ih =>
    rw [Field.resolve] at h
    split at h
    · cases h
    · split at h
      · cases h
      · exact ih h

theorem Schema.kind_ne_map_of_resolve {s : Schema} {path : List Nat} {f : Field}
    (h : s.resolve path = .ok f) : f.kind ≠ .map := by
  cases path with
  | nil => cases h
  | cons i path =>
    rw [Schema.resolve] at h
    split at h
    · cases h
    · exact Field.kind_ne_map_of_resolve h

namespace SortKey

/-- A key that is built has no map among its own fields. It has columns if there is none inside
them either, and otherwise the fault names one that is. -/
theorem columns_of_ofColumns {schema : Schema} {columns : List KeyColumn} {key : SortKey}
    (h : ofColumns schema columns = .ok key) :
    (∀ f ∈ key.schema.fields, f.kind ≠ .map) ∧
    ((∃ fields, key.schema.columns = .ok fields) ↔ ∀ f ∈ key.schema.fields, f.MapFree) ∧
    ∀ fault, key.schema.columns = .error fault →
      ∃ f ∈ key.schema.fields, ∃ m, f.Contains m ∧ m ≠ f ∧ m.kind = .map ∧
        fault = .mapColumn m.label := by
  obtain ⟨-, hresolved⟩ := ofColumns_eq_ok h
  have hown : ∀ f ∈ key.schema.fields, f.kind ≠ .map := by
    intro f hf
    obtain ⟨c, -, hc⟩ := (Except.exists_of_mapM_eq_ok hresolved).2 f hf
    exact Schema.kind_ne_map_of_resolve hc
  refine ⟨hown, key.schema.columns_eq_ok_iff, fun fault hfault => ?_⟩
  obtain ⟨f, hf, m, hm, hmap, hlabel⟩ := key.schema.namesMap hfault
  have hne : m ≠ f := by
    rintro rfl
    exact hown m hf hmap
  exact ⟨f, hf, m, hm, hne, hmap, hlabel⟩

/-- A tuple that holds a map. -/
def mapHolder : Field :=
  ⟨some "t", .tuple, none, some ⟨0, [⟨some "m", .map, none, none⟩], [], []⟩⟩

theorem columns_of_ofColumns_mapHolder :
    ∃ key, ofColumns ⟨0, [mapHolder], [], []⟩ [⟨[0], .ascending⟩] = .ok key ∧
      (∀ f ∈ key.schema.fields, f.kind ≠ .map) ∧
      key.schema.columns = .error (.mapColumn "m") ∧ ¬ ∀ f ∈ key.schema.fields, f.MapFree := by
  have hkey : ofColumns ⟨0, [mapHolder], [], []⟩ [⟨[0], .ascending⟩] =
      .ok ⟨[⟨[0], .ascending⟩], ⟨0, [mapHolder], [0], [.ascending]⟩⟩ := rfl
  obtain ⟨hown, hcolumns, -⟩ := columns_of_ofColumns hkey
  refine ⟨_, hkey, hown, rfl, fun hfree => ?_⟩
  obtain ⟨fields, hfields⟩ := hcolumns.mpr hfree
  cases hfields

theorem ofColumns_mapHolder_not_storable :
    ¬ ∀ (schema : Schema) (columns : List KeyColumn) (key : SortKey),
      schema.check = .ok () → columns ≠ [] → ofColumns schema columns = .ok key →
      ∃ fields, key.schema.columns = .ok fields := by
  intro h
  obtain ⟨fields, hfields⟩ := h ⟨0, [mapHolder], [], []⟩ [⟨[0], .ascending⟩] _ rfl (by simp) rfl
  cases hfields

end SortKey

end RangeSort
