import RangeSort.Job
import RangeSort.Proofs.Partition.Quantile
import RangeSort.Proofs.Partition.Routing
import RangeSort.Proofs.Table.FileStore
import RangeSort.Proofs.Table.Rows

/-! The boundaries that one task stores are those that the others load. -/

namespace RangeSort

namespace Logged

variable {α β : Type}

theorem result_bind (x : Logged α) (f : α → Logged β) :
    (x >>= f).result = x.result >>= fun a => (f a).result := by
  show (Logged.bind x f).result = _
  unfold Logged.bind
  cases x.result <;> rfl

@[simp]
theorem result_ofExcept (x : Except Error α) : (ofExcept x).result = x := rfl

end Logged

namespace SortKey

variable {σ : Type} [Storage σ] {key : SortKey} {records bounds : List Row} {settings : Settings}
  {location : String} {store : σ} {t : Table}

theorem result_determineBoundaries (parts : Nat) (h : key.boundaries records parts = .ok bounds) :
    (key.determineBoundaries records parts).result = .ok bounds := by
  simp only [determineBoundaries, Logged.result_bind, h]
  rfl

theorem writeBoundaries_eq (hlocation : settings.required Settings.boundariesKey = .ok location)
    (ht : Table.ofRows key.schema bounds = .ok t) (hstore : Storage.Usable store location) :
    (key.writeBoundaries settings store bounds).1.result = .ok () ∧
      (key.writeBoundaries settings store bounds).2 = (Storage.write store location t).2 := by
  have hplanned : (key.boundaryTable settings bounds).result = .ok (location, t) := by
    simp only [boundaryTable, hlocation, Logged.result_bind, ht]
    rfl
  have hwrite := hstore.write_eq t
  constructor
  · simp only [writeBoundaries, Logged.result_bind, hplanned, hwrite]
    rfl
  · simp only [writeBoundaries, hplanned]

theorem length_columns {schema : Schema} {columns : List KeyColumn} {fields : List ColumnField}
    (hkey : ofColumns schema columns = .ok key) (hfields : key.schema.columns = .ok fields) :
    fields.length = columns.length := by
  rw [Schema.columns_eq] at hfields
  rw [columnsFrom_length hfields, length_fields hkey]

theorem fits_boundaries {schema : Schema} {columns : List KeyColumn} {parts : Nat}
    (hkey : ofColumns schema columns = .ok key) (hrecords : ∀ r ∈ records, schema.Conforms r)
    (h : key.boundaries records parts = .ok bounds) :
    ∀ b ∈ bounds, fieldsFit key.schema.fields b := by
  intro b hb
  obtain ⟨record, hrecord, rfl⟩ := mem_boundaries h b hb
  exact fits_project hkey (hrecords record hrecord)

end SortKey

namespace Router

section

variable {σ : Type} [Storage σ] [TypeEquality] {key : SortKey} {settings : Settings}
  {location : String} {store : σ}

theorem result_configure {rows : List Row}
    (hlocation : settings.required Settings.boundariesKey = .ok location)
    (hread : Storage.readTable store location key.schema = .ok rows) :
    (configure settings key store).result =
      (ofBoundaries key rows).mapError fun e => .config (.corrupt location e) := by
  simp only [configure, Logged.result_bind, Logged.result_ofExcept, hlocation,
    Except.mapError_ok, Except.ok_bind, hread]
  cases ofBoundaries key rows <;> rfl

/-- Boundaries of conforming records are stored, and another task loads what is read back of
them: all of them in their order, as long as their offsets do not wrap. It is not so when keys are
single bags, because the rows in the bags are then loaded in place of the boundaries. -/
theorem configure_writeBoundaries [LawfulStorage σ] [LawfulTypeEquality] {schema : Schema}
    {columns : List KeyColumn} {fields : List ColumnField} {records : List Row} {parts : Nat}
    (hkey : SortKey.ofColumns schema columns = .ok key) (hcolumns : columns ≠ [])
    (hfields : key.schema.columns = .ok fields)
    (hrecords : ∀ r ∈ records, schema.Conforms r) (hparts : 1 ≤ parts)
    (hlocation : settings.required Settings.boundariesKey = .ok location)
    (hstore : Storage.Usable store location) :
    ∃ bounds, (key.determineBoundaries records parts).result = .ok bounds ∧
      (key.writeBoundaries settings store bounds).1.result = .ok () ∧
      (configure settings key (key.writeBoundaries settings store bounds).2).result =
        (ofBoundaries key (key.schema.reread bounds)).mapError
          (fun e => .config (.corrupt location e)) ∧
      (¬ key.schema.IsLoneBag → key.schema.reread bounds = bounds) ∧
      (¬ key.schema.IsLoneBag → (parts - 1) * records.length < UInt64.size →
        (configure settings key (key.writeBoundaries settings store bounds).2).result =
          .ok ⟨key, bounds.toArray⟩ ∧
        ofBoundaries key bounds = .ok ⟨key, bounds.toArray⟩) := by
  obtain ⟨bounds, hbounds⟩ : ∃ bounds, key.boundaries records parts = .ok bounds :=
    ⟨_, SortKey.boundaries_eq hparts⟩
  have hne : fields ≠ [] := by
    rw [← List.length_pos_iff, SortKey.length_columns hkey hfields, List.length_pos_iff]
    exact hcolumns
  obtain ⟨t, ht, hrows⟩ := Table.exists_ofRows hfields hne
    (SortKey.fits_boundaries hkey hrecords hbounds)
  obtain ⟨hwritten, hstored⟩ := SortKey.writeBoundaries_eq hlocation ht hstore
  have hread : Storage.readTable (Storage.write store location t).2 location key.schema =
      .ok (key.schema.reread bounds) := by
    rw [Storage.readTable_of_read (hstore.keeps.read_write (hstore.write_eq t))]
    exact hrows location
  have hsame (hbag : ¬ key.schema.IsLoneBag) : key.schema.reread bounds = bounds := by
    rw [Schema.reread, if_neg hbag]
  refine ⟨bounds, SortKey.result_determineBoundaries parts hbounds, hwritten, ?_, hsame, ?_⟩
  · rw [hstored, result_configure hlocation hread]
  · intro hbag hword
    have hkept := ofBoundaries_of_pairwise (SortKey.pairwise_boundaries hbounds hword)
    rw [hstored, result_configure hlocation hread, hsame hbag, hkept]
    exact ⟨rfl, rfl⟩

end

/-- Rows of a pair of numbers and a bag of numbers. -/
def pairedSchema : Schema :=
  let number (name : String) : Field := ⟨some name, .int, none, none⟩
  ⟨0, [⟨some "pair", .tuple, none, some ⟨0, [number "x", number "y"], [], []⟩⟩,
    ⟨some "all", .bag, none,
      some ⟨0, [⟨some "t", .tuple, none, some ⟨0, [number "k"], [], []⟩⟩], [], []⟩⟩], [], []⟩

def pairedRecord : Row := [.tuple [.int 3, .null], .bag [[.int 1], [.int 2]]]

theorem conforms_pairedRecord : pairedSchema.Conforms pairedRecord := by
  intro i f hf
  match i, hf with
  | 0, hf =>
    cases hf
    exact .inr ⟨_, rfl, by simp, .inr rfl, by simp, .inl rfl, rfl⟩
  | 1, hf =>
    cases hf
    refine .inr ⟨_, rfl, fun r hr => ?_⟩
    have : r = [.int 1] ∨ r = [.int 2] := by simpa using hr
    rcases this with rfl | rfl
    · exact ⟨by simp, .inr rfl, rfl⟩
    · exact ⟨by simp, .inr rfl, rfl⟩

/-- Keys of two columns, one of them a bag. -/
theorem configure_writeBoundaries_two_columns :
    ∃ key bounds,
      SortKey.ofColumns pairedSchema [⟨[0, 1], .descending⟩, ⟨[1], .ascending⟩] = .ok key ∧
      (key.determineBoundaries [pairedRecord, pairedRecord] 2).result = .ok bounds ∧
      (configure [(Settings.boundariesKey, "b")] key
        (key.writeBoundaries [(Settings.boundariesKey, "b")] FileStore.empty bounds).2).result =
        .ok ⟨key, bounds.toArray⟩ := by
  have hkey : SortKey.ofColumns pairedSchema [⟨[0, 1], .descending⟩, ⟨[1], .ascending⟩] =
      .ok ⟨[⟨[0, 1], .descending⟩, ⟨[1], .ascending⟩], _⟩ := rfl
  obtain ⟨bounds, hbounds, -, -, -, hloaded⟩ := configure_writeBoundaries hkey (by simp) rfl
    (by simp [conforms_pairedRecord] : ∀ r ∈ [pairedRecord, pairedRecord], _) (Nat.le_succ 1)
    (rfl : Settings.required [(Settings.boundariesKey, "b")] Settings.boundariesKey = .ok "b")
    FileStore.usable_empty
  exact ⟨_, bounds, hkey, hbounds, (hloaded (by decide) (by decide)).1⟩

/-- The boundary of a single bag is loaded as the two rows in it. -/
theorem configure_writeBoundaries_single_bag :
    ¬ ∀ (schema : Schema) (columns : List KeyColumn) (key : SortKey) (fields : List ColumnField)
        (records : List Row) (parts : Nat) (settings : Settings) (location : String)
        (store : FileStore),
      SortKey.ofColumns schema columns = .ok key → columns ≠ [] →
      key.schema.columns = .ok fields → (∀ r ∈ records, schema.Conforms r) → 1 ≤ parts →
      settings.required Settings.boundariesKey = .ok location → Storage.Usable store location →
      ∃ bounds, (key.determineBoundaries records parts).result = .ok bounds ∧
        (key.writeBoundaries settings store bounds).1.result = .ok () ∧
        (configure settings key (key.writeBoundaries settings store bounds).2).result =
          .ok ⟨key, bounds.toArray⟩ := by
  intro h
  obtain ⟨bounds, hbounds, -, hloaded⟩ := h pairedSchema [⟨[1], .ascending⟩] _ _ [pairedRecord] 2
    [(Settings.boundariesKey, "b")] "b" .empty rfl (by simp) rfl
    (by simp [conforms_pairedRecord]) (Nat.le_succ 1) rfl FileStore.usable_empty
  rw [SortKey.result_determineBoundaries 2 (SortKey.boundaries_singleton _ _)] at hbounds
  cases hbounds
  cases hloaded

end Router

end RangeSort
