import RangeSort.Proofs.Job
import RangeSort.Proofs.Schema.RowCoercion
import RangeSort.Proofs.Table.RoundTrip
import RangeSort.Proofs.Value.Rereading
import RangeSort.Schema.Logical

/-! Keys of coerced rows. Coercion types the fields of a row; what lies inside their tuples and
bags has the types of its text, whatever the schema declares there. -/

namespace RangeSort

theorem Row.item_of_ne_null {row : Row} {i : Nat} (h : row.item i ≠ .null) :
    isLoneNull row = false ∧ row.item i ∈ row := by
  have hmem : row.item i ∈ row := by
    unfold Row.item at h ⊢
    cases hi : row[i]? with
    | none => simp [hi] at h
    | some v => exact List.mem_of_getElem? hi
  refine ⟨?_, hmem⟩
  cases hlone : isLoneNull row with
  | false => rfl
  | true =>
    rw [eq_null_of_isLoneNull hlone] at hmem h
    exact absurd (List.mem_singleton.mp hmem) h

/-- A path into a tuple ends at something in it, or at null. -/
theorem Value.holds_follow (path : List Nat) (items : Row) :
    Row.follow path items = .null ∨ ∃ level, Holds (.tuple items) level (items.follow path) := by
  induction path generalizing items with
  | nil => exact .inl rfl
  | cons i path ih =>
    by_cases hnull : items.item i = .null
    · left
      simp [Row.follow, hnull]
    · obtain ⟨hlone, hmem⟩ := Row.item_of_ne_null hnull
      by_cases hpath : path = []
      · subst hpath
        exact .inr ⟨1, .item hlone hmem (.self _)⟩
      · rcases items.follow_cons i hpath with h | ⟨inner, hinner, h⟩
        · exact .inl h
        · rw [hinner] at hmem
          rw [h]
          rcases ih inner with hnull | ⟨level, hholds⟩
          · exact .inl hnull
          · exact .inr ⟨level + 1, .item hlone hmem hholds⟩

/-- What is inside a tuple that has been read is never octets. -/
theorem Value.kind_follow_ne_bytes {octets : Octets} {items : Row}
    (h : Value.read octets = .ok (.tuple items)) (path : List Nat) :
    (items.follow path).kind ≠ .bytes := by
  rcases Value.holds_follow path items with hnull | ⟨level, hholds⟩
  · rw [hnull]
    nofun
  · have hsteady := ((Value.read_eq_ok.mp h).legible level _ hholds).2.steady
    intro hkind
    cases hv : items.follow path with
    | bytes => exact (hv ▸ hsteady :)
    | _ => simp [hv, Value.kind] at hkind

namespace Schema

variable {s : Schema} {i j : Nat} {path : List Nat} {f : Field}

theorem field_of_resolve_singleton (h : s.resolve [i] = .ok f) : s.fields[i]? = some f := by
  rw [resolve] at h
  split at h
  · cases h
  · rename_i g hg
    rw [Field.resolve] at h
    split at h
    · cases h
    · cases h
      exact hg

theorem tuple_of_resolve (h : s.resolve (i :: j :: path) = .ok f) :
    ∃ g, s.fields[i]? = some g ∧ g.kind = .tuple := by
  rw [resolve] at h
  split at h
  · cases h
  · rename_i g hg
    rw [Field.resolve] at h
    split at h
    · cases h
    · rename_i htuple
      exact ⟨g, hg, Decidable.of_not_not htuple⟩

end Schema

/-- The values of a key column have the type of their field as soon as they have its kind: they
are fields of the record, and no types are declared for what is in them. -/
structure KeyColumn.IsFlat (c : KeyColumn) (f : Field) : Prop where
  length_path : c.path.length = 1
  itemFields : f.kind = .tuple → f.itemFields = []
  elementFields : f.kind = .bag → f.elementFields = []

theorem KeyColumn.IsFlat.takes {c : KeyColumn} {f : Field} (h : c.IsFlat f) {v : Value}
    (hv : v = .null ∨ v.kind = f.kind.stored) : f.Takes v := by
  by_cases htuple : f.kind = .tuple
  · rw [Field.takes_tuple htuple, h.itemFields htuple]
    rw [htuple] at hv
    rcases hv with rfl | hv
    · exact .inl rfl
    · cases v with
      | tuple items => exact .inr ⟨items, rfl, fieldsTake_nil items⟩
      | _ => cases hv
  · by_cases hbag : f.kind = .bag
    · rw [Field.takes_bag hbag, h.elementFields hbag]
      rw [hbag] at hv
      rcases hv with rfl | hv
      · exact .inl rfl
      · cases v with
        | bag rows => exact .inr ⟨rows, rfl, fun r _ => fieldsTake_nil r⟩
        | _ => cases hv
    · refine (Field.takes_plain ?_).mpr hv
      cases hkind : f.kind with
      | tuple => exact absurd hkind htuple
      | bag => exact absurd hkind hbag
      | _ => rfl

namespace SortKey

variable {schema : Schema} {columns : List KeyColumn} {key : SortKey} {i : Nat} {c : KeyColumn}
  {f : Field}

section CoerceRow

variable {raw : List (Option Octets)} {row : Row}

theorem kind_project (hkey : ofColumns schema columns = .ok key)
    (hrow : (schema.coerceRow raw).result = .ok row) (hc : columns[i]? = some c)
    (hf : key.schema.fields[i]? = some f) (hpath : c.path.length = 1) :
    (key.project row).item i = .null ∨ ((key.project row).item i).kind = f.kind.stored := by
  have hresolve := resolve_column hkey hc hf
  rw [item_project hkey hc]
  obtain ⟨offset, hoffset⟩ := List.length_eq_one_iff.mp hpath
  rw [hoffset] at hresolve ⊢
  exact kind_of_coerce (item_of_coerceFields hrow (Schema.field_of_resolve_singleton hresolve))

theorem read_project (hkey : ofColumns schema columns = .ok key)
    (hrow : (schema.coerceRow raw).result = .ok row) (hc : columns[i]? = some c)
    (hf : key.schema.fields[i]? = some f) {offset : Nat} {rest : List Nat}
    (hpath : c.path = offset :: rest) (hrest : rest ≠ []) :
    (key.project row).item i = .null ∨
      ∃ (octets : Octets) (items : Row), raw[offset]?.join = some octets ∧ Value.read octets = .ok (.tuple items) ∧
        (key.project row).item i = items.follow rest := by
  have hresolve := resolve_column hkey hc hf
  rw [item_project hkey hc, hpath]
  rw [hpath] at hresolve
  refine (row.follow_cons offset hrest).imp id ?_
  rintro ⟨items, hitems, hfollow⟩
  obtain ⟨j, rest, rfl⟩ := List.exists_cons_of_ne_nil hrest
  obtain ⟨g, hg, htuple⟩ := Schema.tuple_of_resolve hresolve
  have hcoerce := item_of_coerceFields hrow hg
  rw [htuple, hitems] at hcoerce
  obtain ⟨octets, hoctets, hread⟩ := read_of_coerce_tuple hcoerce
  exact ⟨octets, items, hoctets, hread, hfollow⟩

end CoerceRow

theorem takes_of_flat {records bounds : List Row} {parts : Nat}
    (hkey : ofColumns schema columns = .ok key)
    (hrecords : ∀ r ∈ records, ∃ raw, (schema.coerceRow raw).result = .ok r)
    (hbounds : key.boundaries records parts = .ok bounds) {b : Row} (hb : b ∈ bounds)
    (hc : columns[i]? = some c) (hf : key.schema.fields[i]? = some f) (hflat : c.IsFlat f) :
    f.Takes (b.item i) := by
  obtain ⟨row, hmem, rfl⟩ := mem_boundaries hbounds b hb
  obtain ⟨raw, hrow⟩ := hrecords row hmem
  exact hflat.takes (kind_project hkey hrow hc hf hflat.length_path)

/-- The keys of coerced rows have the kinds of their fields at columns that are fields of the row.
Further inside they are what the text of the row says. Only there can a boundary have a value that
its column does not take. -/
theorem project_coerceRow (hkey : ofColumns schema columns = .ok key) :
    (∀ (raw : List (Option Octets)) (row : Row), (schema.coerceRow raw).result = .ok row →
      ∀ (i : Nat) (c : KeyColumn) (f : Field),
        columns[i]? = some c → key.schema.fields[i]? = some f →
        (c.path.length = 1 →
          (key.project row).item i = .null ∨
            ((key.project row).item i).kind = f.kind.stored) ∧
        ∀ offset rest, c.path = offset :: rest → rest ≠ [] →
          (key.project row).item i = .null ∨
            ∃ (octets : Octets) (items : Row), raw[offset]?.join = some octets ∧
              Value.read octets = .ok (.tuple items) ∧
              (key.project row).item i = items.follow rest ∧
              (items.follow rest).kind ≠ .bytes) ∧
    ∀ (records bounds : List Row) (parts : Nat) (fields : List ColumnField),
      (∀ r ∈ records, ∃ raw, (schema.coerceRow raw).result = .ok r) →
      key.boundaries records parts = .ok bounds → key.schema.columns = .ok fields →
      columns ≠ [] →
      ((∃ t, Table.ofRows key.schema bounds = .ok t) ↔
        ∀ b ∈ bounds, ∀ (i : Nat) (c : KeyColumn) (f : Field),
          columns[i]? = some c → key.schema.fields[i]? = some f → ¬ c.IsFlat f →
          f.Takes (b.item i)) := by
  constructor
  · intro raw row hrow i c f hc hf
    refine ⟨kind_project hkey hrow hc hf, fun offset rest hpath hrest => ?_⟩
    refine (read_project hkey hrow hc hf hpath hrest).imp id ?_
    rintro ⟨octets, items, hoctets, hread, hitem⟩
    exact ⟨octets, items, hoctets, hread, hitem, Value.kind_follow_ne_bytes hread rest⟩
  · intro records bounds parts fields hrecords hbounds hfields hcolumns
    have hwidth := length_columns hkey hfields
    have hlength := length_fields hkey
    have hne : fields ≠ [] := by
      rw [← List.length_pos_iff, hwidth, List.length_pos_iff]
      exact hcolumns
    rw [← Table.takes_iff hfields hne]
    constructor
    · intro h b hb i c f _ hf _
      exact h b hb i f hf
    · intro h b hb i f hf
      have hi : i < columns.length := by
        rw [← hlength]
        exact (List.getElem?_eq_some_iff.mp hf).1
      by_cases hflat : columns[i].IsFlat f
      · exact takes_of_flat hkey hrecords hbounds hb (List.getElem?_eq_getElem hi) hf hflat
      · exact h b hb i _ f (List.getElem?_eq_getElem hi) hf hflat

/-- A tuple that is declared to hold a long. -/
def declaredLong : List LogicalField :=
  [⟨some "t", .tuple, some [⟨some "x", .long, none⟩]⟩]

def longField : Field :=
  ⟨some "x", .long, some generatedDescription, none⟩

def longHolder : Field :=
  ⟨some "t", .tuple, some generatedDescription, some ⟨0, [longField], [], []⟩⟩

def declaredSchema : Schema :=
  ⟨0, [longHolder], [], []⟩

def declaredKey : SortKey :=
  ⟨[⟨[0], .ascending⟩, ⟨[0, 0], .descending⟩],
    ⟨0, [longHolder, longField], [0, 1], [.ascending, .descending]⟩⟩

theorem coerceRow_one : (declaredSchema.coerceRow [some (Utf8.encodeText "(1)")]).result =
    .ok [.tuple [.int 1]] := by
  have hitem : IsValue 1 (Utf8.encodeText "1") (.int 1) :=
    .token (by decide) (.of_all (by decide)) (IsOpener.not_head (by decide))
  have htuple : IsTuple 0 (Utf8.encodeText "(1)") [.int 1] :=
    .items [(Utf8.encodeText "1", .int 1)] (by decide) (by decide) (by simpa using hitem)
  have hread := Value.read_eq_ok.mpr (.tuple (by decide : 0 ≤ maxLevel) htuple)
  have hcoerce : coerce longHolder.kind (some (Utf8.encodeText "(1)")) = .value (.tuple [.int 1]) := by
    simp only [longHolder, coerce, Coerced.present, Coerced.composite, hread]
    rfl
  simp only [Schema.coerceRow, declaredSchema, coerceFields, List.head?_cons, Option.getD_some,
    hcoerce, Coerced.value]
  rfl

theorem project_coerceRow_declaredLong :
    ofColumns declaredSchema declaredKey.columns = .ok declaredKey ∧
      declaredKey.project [.tuple [.int 1]] = [.tuple [.int 1], .int 1] ∧
      ((declaredKey.project [.tuple [.int 1]]).item 0).kind = longHolder.kind ∧
      ¬ ∃ t, Table.ofRows declaredKey.schema [[.tuple [.int 1], .int 1]] = .ok t := by
  have hkey : ofColumns declaredSchema declaredKey.columns = .ok declaredKey := rfl
  obtain ⟨hproject, hstored⟩ := project_coerceRow hkey
  obtain ⟨hdirect, -⟩ := hproject _ _ coerceRow_one 0 _ _ rfl rfl
  refine ⟨hkey, rfl, (hdirect rfl).resolve_left nofun, fun hrows => ?_⟩
  have hrecords : ∀ r ∈ [[.tuple [.int 1]]], ∃ raw, (declaredSchema.coerceRow raw).result = .ok r :=
    List.forall_mem_singleton.mpr ⟨_, coerceRow_one⟩
  have hbounds := boundaries_singleton declaredKey [.tuple [.int 1]]
  have htakes := (hstored _ _ _ _ hrecords hbounds rfl (List.cons_ne_nil _ _)).mp hrows
  have hflat : ¬ KeyColumn.IsFlat ⟨[0, 0], .descending⟩ longField := by
    intro h
    cases h.length_path
  have hlong := htakes _ (List.mem_singleton_self _) 1 _ _ rfl rfl hflat
  rcases (Field.takes_plain rfl).mp hlong with hnull | hkind
  · cases hnull
  · cases hkind

/-- What is declared inside a tuple does not type what is read there. -/
theorem kind_project_declaredLong :
    ¬ ∀ (fields : List LogicalField) (schema : Schema) (columns : List KeyColumn) (key : SortKey)
        (raw : List (Option Octets)) (row : Row),
      Schema.ofLogical? fields = .ok schema → ofColumns schema columns = .ok key →
      (schema.coerceRow raw).result = .ok row →
      ∀ (i : Nat) (f : Field), key.schema.fields[i]? = some f →
        (key.project row).item i = .null ∨ ((key.project row).item i).kind = f.kind.stored := by
  intro h
  have hkind := h declaredLong declaredSchema [⟨[0, 0], .ascending⟩] _ _ _ rfl rfl coerceRow_one
    0 _ rfl
  rcases hkind with hnull | hkind
  · cases hnull
  · cases hkind

end SortKey

end RangeSort
