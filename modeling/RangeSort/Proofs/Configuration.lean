import RangeSort.Proofs.Job
import RangeSort.Proofs.Table.Foreign

/-! What a job may find at the configured location. Boundaries that are loaded are keys of the
schema in their order, whatever was stored; anything else is an error of the configuration. -/

namespace RangeSort

theorem fieldsFit.length_eq {fs : List Field} {row : Row} (h : fieldsFit fs row) :
    row.length = fs.length := by
  induction fs generalizing row with
  | nil =>
    cases h
    rfl
  | cons f fs ih =>
    obtain ⟨hrow, -, htail⟩ := h
    obtain ⟨v, row, rfl⟩ := List.exists_cons_of_ne_nil hrow
    exact congrArg (· + 1) (ih htail)

/-- Files that are tables hold what they state. -/
theorem FileStore.wellTyped_of_files {s : FileStore}
    (h : ∀ (path : List String) (t : Table), s.find? path = some (.table t) → t.WellTyped) :
    Storage.WellTyped s := by
  intro location t ht
  obtain ⟨content, hcontent, ht⟩ := Except.bind_eq_ok.mp ht
  cases content with
  | raw octets => cases ht
  | table t =>
    cases ht
    obtain ⟨target, -, hfound⟩ := Except.bind_eq_ok.mp hcontent
    cases target with
    | memory => cases hfound
    | file path =>
      cases hpath : s.find? path with
      | none =>
        simp only [hpath] at hfound
        cases hfound
      | some content =>
        simp only [hpath] at hfound
        cases hfound
        exact h path t hpath

namespace Router

section

variable {σ : Type} [Storage σ] [TypeEquality]

theorem configure_cases (settings : Settings) (key : SortKey) (store : σ) :
    (∃ location rows, settings.required Settings.boundariesKey = .ok location ∧
      Storage.readTable store location key.schema = .ok rows ∧
      (configure settings key store).result =
        (ofBoundaries key rows).mapError fun e => .config (.corrupt location e)) ∨
    ∃ cause, (configure settings key store).result = .error (.config cause) := by
  cases hlocation : settings.required Settings.boundariesKey with
  | error fault =>
    refine .inr ⟨fault, ?_⟩
    simp only [configure, Logged.result_bind, Logged.result_ofExcept, hlocation]
    rfl
  | ok location =>
    cases hread : Storage.readTable store location key.schema with
    | error e =>
      refine .inr ⟨.unreadable location e, ?_⟩
      simp only [configure, Logged.result_bind, Logged.result_ofExcept, hlocation,
        Except.mapError_ok, Except.ok_bind, hread]
      rfl
    | ok rows =>
      exact .inl ⟨location, rows, rfl, hread, result_configure hlocation hread⟩

/-- Boundaries that are loaded have the types of the keys and ascend, unless keys are single
bags. -/
theorem configure_typed_sorted [LawfulTypeEquality] {key : SortKey}
    (hs : ¬ key.schema.IsLoneBag) {store : σ} (hstore : Storage.WellTyped store)
    (settings : Settings) :
    (∃ r, (configure settings key store).result = .ok r ∧ r.key = key ∧
      (∀ b ∈ r.boundaries, b.length = key.schema.fields.length ∧
        fieldsFit key.schema.fields b) ∧
      ∀ (i j : Nat) (hij : i < j) (hj : j < r.boundaries.size),
        (key.compare r.boundaries[i] r.boundaries[j]).isLE) ∨
    ∃ cause, (configure settings key store).result = .error (.config cause) := by
  rcases configure_cases settings key store with ⟨location, rows, -, hread, hresult⟩ | herror
  · cases hrouter : ofBoundaries key rows with
    | error e => exact .inr ⟨.corrupt location e, by rw [hresult, hrouter]; rfl⟩
    | ok r =>
      obtain ⟨rfl, hsorted⟩ := ofBoundaries_eq_ok hrouter
      have hfits := Storage.fits_of_readTable hs hstore hread
      refine .inl ⟨_, by rw [hresult, hrouter]; rfl, rfl, fun b hb => ?_, fun i j hij hj => ?_⟩
      · have hb := hfits b (List.mem_toArray.mp hb)
        exact ⟨hb.length_eq, hb⟩
      · exact List.pairwise_iff_getElem.mp hsorted i j (Nat.lt_trans hij hj) hj hij
  · exact .inr herror

end

def mixedKey : SortKey :=
  ⟨[⟨[0], .ascending⟩, ⟨[1], .descending⟩],
    ⟨0, [⟨some "k", .int, none, none⟩, ⟨none, .unknown, none, none⟩], [], []⟩⟩

/-- Keys in the bags of a single column. -/
def baggedBatch (slots : List ListSlot) (numbers : List (Option Int32))
    (names : List (Option Octets)) : Batch :=
  ⟨slots.length, [.list slots (.struct (numbers.map fun _ => true)
    [.int32 numbers, .binary names])]⟩

def baggedTable : Table :=
  let key : List ColumnField := [.mk "a" .int32 false, .mk "b" .binary true]
  ⟨[.mk "bags" (.list (.mk "item" (.struct key) true)) true],
    [baggedBatch [⟨true, 2⟩] [some 1, some 1] [some [2], none],
      baggedBatch [⟨false, 0⟩, ⟨true, 1⟩] [some 4] [some []]]⟩

def baggedStore : FileStore :=
  ⟨[], [], [(["b"], .table baggedTable)]⟩

theorem haveTypes_baggedBatch (slots : List ListSlot) (numbers : List (Option Int32))
    (names : List (Option Octets)) :
    Column.HaveTypes (baggedBatch slots numbers names).columns baggedTable.fields := by
  have hkey : Column.HaveTypes [.int32 numbers, .binary names]
      [.mk "a" .int32 false, .mk "b" .binary true] :=
    .cons "a" false (.int32 numbers) (.cons "b" true (.binary names) .nil)
  exact .cons "bags" true (.list slots "item" true (.struct _ hkey)) .nil

theorem wellTyped_baggedStore : Storage.WellTyped baggedStore := by
  refine FileStore.wellTyped_of_files fun path t h => ?_
  have ht : t = baggedTable := by
    simp only [FileStore.find?, baggedStore, List.lookup_cons, List.lookup_nil] at h
    split at h
    · cases h
      rfl
    · cases h
  subst ht
  exact List.forall_mem_cons.mpr ⟨haveTypes_baggedBatch _ _ _,
    List.forall_mem_singleton.mpr (haveTypes_baggedBatch _ _ _)⟩

theorem configure_typed_sorted_bagged :
    ∃ r, (configure [(Settings.boundariesKey, "b")] mixedKey baggedStore).result = .ok r ∧
      r.boundaries = #[[.int 1, .bytes [2]], [.int 1, .null], [.int 4, .bytes []]] ∧
      ∀ b ∈ r.boundaries, fieldsFit mixedKey.schema.fields b := by
  obtain ⟨r, hr, -, htyped, -⟩ | ⟨cause, hcause⟩ := configure_typed_sorted
    (by decide : ¬ mixedKey.schema.IsLoneBag) wellTyped_baggedStore [(Settings.boundariesKey, "b")]
  · refine ⟨r, hr, ?_, fun b hb => (htyped b hb).2⟩
    cases hr
    rfl
  · cases hcause

end Router

end RangeSort
