import RangeSort.Proofs.Schema.Conformity
import RangeSort.Proofs.Schema.Layout

/-! The values that the columns of a schema take, and what is kept of them. Rows may have any
width; values past the declared fields are dropped and missing ones are null. -/

namespace RangeSort

/-- Null, a plain value of the kind of the field, or rows whose values at the declared
positions are taken by the nested fields. -/
inductive Field.Takes : Field → Value → Prop
  | null (f : Field) : Takes f .null
  | plain {f : Field} {v : Value} (hf : f.kind.isNested = false) (hv : v.kind = f.kind.stored) :
      Takes f v
  | tuple {f : Field} {items : Row} (hf : f.kind = .tuple)
      (h : ∀ i g, f.itemFields[i]? = some g → Takes g (items.item i)) : Takes f (.tuple items)
  | bag {f : Field} {rows : List Row} (hf : f.kind = .bag)
      (h : ∀ r ∈ rows, ∀ i g, f.elementFields[i]? = some g → Takes g (r.item i)) :
      Takes f (.bag rows)

def fieldsTake (fs : List Field) (row : Row) : Prop :=
  ∀ (i : Nat) (f : Field), fs[i]? = some f → f.Takes (row.item i)

def Schema.Takes (s : Schema) (row : Row) : Prop :=
  fieldsTake s.fields row

mutual

/-- What the column of a field keeps of a value. -/
def Value.cut : Value → Field → Value
  | .tuple items, f => .tuple (cutItems items f.itemFields)
  | .bag rows, f => .bag (cutRows rows f.elementFields)
  | .null, _ => .null
  | .boolean b, _ => .boolean b
  | .int n, _ => .int n
  | .long n, _ => .long n
  | .float bits, _ => .float bits
  | .double bits, _ => .double bits
  | .bytes b, _ => .bytes b
  | .text s, _ => .text s
  | .map entries, _ => .map entries
termination_by structural v => v

/-- A row of exactly the declared width. -/
def cutItems : List Value → List Field → List Value
  | [], fs => fs.map fun _ => .null
  | _ :: _, [] => []
  | v :: vs, f :: fs => v.cut f :: cutItems vs fs
termination_by structural vs => vs

def cutRows : List (List Value) → List Field → List (List Value)
  | [], _ => []
  | r :: rs, fs => cutItems r fs :: cutRows rs fs
termination_by structural rs => rs

end

def Schema.cut (s : Schema) (row : Row) : Row :=
  cutItems row s.fields

theorem fieldsTake_nil (row : Row) : fieldsTake [] row :=
  fun _ _ hf => nomatch hf

theorem fieldsTake_cons {f : Field} {fs : List Field} {row : Row} :
    fieldsTake (f :: fs) row ↔ f.Takes (row.headD .null) ∧ fieldsTake fs row.tail := by
  constructor
  · intro h
    refine ⟨row.item_zero ▸ h 0 f rfl, fun i g hg => ?_⟩
    rw [← row.item_succ]
    exact h (i + 1) g hg
  · rintro ⟨hhead, htail⟩ i g hg
    cases i with
    | zero =>
      cases hg
      rw [row.item_zero]
      exact hhead
    | succ i =>
      rw [row.item_succ]
      exact htail i g hg

namespace Field

variable {f : Field} {v : Value}

theorem takes_plain (hf : f.kind.isNested = false) :
    f.Takes v ↔ v = .null ∨ v.kind = f.kind.stored := by
  constructor
  · intro h
    cases h with
    | null => exact .inl rfl
    | plain _ hv => exact .inr hv
    | tuple hk => simp [hk, Kind.isNested] at hf
    | bag hk => simp [hk, Kind.isNested] at hf
  · rintro (rfl | hv)
    · exact .null f
    · exact .plain hf hv

theorem takes_tuple (hf : f.kind = .tuple) :
    f.Takes v ↔ v = .null ∨ ∃ items, v = .tuple items ∧ fieldsTake f.itemFields items := by
  constructor
  · intro h
    cases h with
    | null => exact .inl rfl
    | plain hk => simp [hf, Kind.isNested] at hk
    | tuple _ h => exact .inr ⟨_, rfl, h⟩
    | bag hk => cases hf.symm.trans hk
  · rintro (rfl | ⟨items, rfl, h⟩)
    · exact .null f
    · exact .tuple hf h

theorem takes_bag (hf : f.kind = .bag) :
    f.Takes v ↔ v = .null ∨ ∃ rows, v = .bag rows ∧ ∀ r ∈ rows, fieldsTake f.elementFields r := by
  constructor
  · intro h
    cases h with
    | null => exact .inl rfl
    | plain hk => simp [hf, Kind.isNested] at hk
    | tuple hk => cases hf.symm.trans hk
    | bag _ h => exact .inr ⟨_, rfl, h⟩
  · rintro (rfl | ⟨rows, rfl, h⟩)
    · exact .null f
    · exact .bag hf h

end Field

theorem Kind.isNested_stored {kind : Kind} (h : kind.isNested = false) :
    kind.stored.isNested = false := by
  cases kind <;> first | rfl | exact h

theorem Value.cut_of_plain {v : Value} {f : Field} (h : v.kind.isNested = false) : v.cut f = v := by
  cases v <;> first | rfl | cases h

theorem cutItems_nil (row : Row) : cutItems row [] = [] := by
  cases row <;> rfl

theorem cutItems_cons (f : Field) (fs : List Field) (row : Row) :
    cutItems row (f :: fs) = (row.headD .null).cut f :: cutItems row.tail fs := by
  cases row <;> rfl

theorem cutRows_eq_map (rows : List Row) (fs : List Field) :
    cutRows rows fs = rows.map fun r => cutItems r fs := by
  induction rows with
  | nil => rfl
  | cons r rows ih => rw [cutRows, ih, List.map_cons]

/-- Rows fit when they are taken and nothing of them is cut or padded. -/
theorem columnInduction_fits :
    ColumnInduction (fun f _ => ∀ v, f.Fits v ↔ f.Takes v ∧ v.cut f = v)
      fun fs _ => ∀ r, fieldsFit fs r ↔ fieldsTake fs r ∧ cutItems r fs = r where
  plain f type hf _ v := by
    rw [Field.fits_plain hf, Field.takes_plain hf]
    refine (and_iff_left_of_imp fun hv => Value.cut_of_plain ?_).symm
    rcases hv with rfl | hv
    · rfl
    · rw [hv]
      exact Kind.isNested_stored hf
  tuple f inner hk h v := by
    rw [Field.fits_tuple hk, Field.takes_tuple hk]
    constructor
    · rintro (rfl | ⟨items, rfl, hfit⟩)
      · exact ⟨.inl rfl, rfl⟩
      · obtain ⟨htakes, hcut⟩ := (h items).mp hfit
        exact ⟨.inr ⟨items, rfl, htakes⟩, congrArg Value.tuple hcut⟩
    · rintro ⟨rfl | ⟨items, rfl, htakes⟩, hcut⟩
      · exact .inl rfl
      · exact .inr ⟨items, rfl, (h items).mpr ⟨htakes, Value.tuple.inj hcut⟩⟩
  bag f inner _ _ hk h v := by
    rw [Field.fits_bag hk, Field.takes_bag hk]
    constructor
    · rintro (rfl | ⟨rows, rfl, hfit⟩)
      · exact ⟨.inl rfl, rfl⟩
      · refine ⟨.inr ⟨rows, rfl, fun r hr => ((h r).mp (hfit r hr)).1⟩, congrArg Value.bag ?_⟩
        rw [cutRows_eq_map]
        exact (List.map_congr_left fun r hr => ((h r).mp (hfit r hr)).2).trans rows.map_id
    · rintro ⟨rfl | ⟨rows, rfl, htakes⟩, hcut⟩
      · exact .inl rfl
      · have hrows : rows.map (fun r => cutItems r f.elementFields) = rows := by
          rw [← cutRows_eq_map]
          exact Value.bag.inj hcut
        refine .inr ⟨rows, rfl, fun r hr => (h r).mpr ⟨htakes r hr, ?_⟩⟩
        exact List.map_eq_map_iff.mp (hrows.trans rows.map_id.symm) r hr
  nil r := by
    rw [cutItems_nil]
    exact ⟨fun h => ⟨fieldsTake_nil r, h.symm⟩, fun h => h.2.symm⟩
  cons f fs _ _ _ _ hf hfs r := by
    rw [fieldsTake_cons, cutItems_cons, fieldsFit, hf, hfs]
    constructor
    · rintro ⟨hr, ⟨hhead, hcut⟩, htail, hcuts⟩
      obtain ⟨v, r, rfl⟩ := List.exists_cons_of_ne_nil hr
      exact ⟨⟨hhead, htail⟩, congrArg₂ List.cons hcut hcuts⟩
    · rintro ⟨⟨hhead, htail⟩, hcut⟩
      cases r with
      | nil => cases hcut
      | cons v r =>
        obtain ⟨hv, hr⟩ := List.cons.inj hcut
        exact ⟨by simp, ⟨hhead, hv⟩, htail, hr⟩

theorem Schema.fits_iff {s : Schema} {fields : List ColumnField} (h : s.columns = .ok fields)
    (row : Row) : fieldsFit s.fields row ↔ s.Takes row ∧ s.cut row = row :=
  columnInduction_fits.schema s h row

end RangeSort
