import RangeSort.Proofs.Schema.Layout
import RangeSort.SortKey.Basic

/-! Paths into records. The fields that a path resolves to and the values that it leads to stay
in step, level by level, so what a record satisfies at its fields it satisfies at the end of
every path. -/

namespace RangeSort

/-- The value at the end of a path. It is null where the path ends past a row, and where a tuple
on the way is null or missing. -/
inductive Row.At : Row → List Nat → Value → Prop
  | item {row : Row} {i : Nat} {v : Value} (h : row[i]? = some v) : At row [i] v
  | missing {row : Row} {i : Nat} (path : List Nat) (h : row[i]? = none) : At row (i :: path) .null
  | null {row : Row} {i : Nat} (path : List Nat) (h : row[i]? = some .null) :
      At row (i :: path) .null
  | inside {row items : Row} {i : Nat} {path : List Nat} {v : Value}
      (h : row[i]? = some (.tuple items)) (hv : At items path v) : At row (i :: path) v

theorem Row.follow_of_null {row : Row} {i : Nat} (h : row.item i = .null) (path : List Nat) :
    row.follow (i :: path) = .null := by
  simp [Row.follow, h]

theorem Row.follow_of_tuple {row items : Row} {i : Nat} {path : List Nat}
    (h : row.item i = .tuple items) (hpath : path ≠ []) :
    row.follow (i :: path) = items.follow path := by
  simp [Row.follow, h, hpath]

theorem Row.follow_cons (row : Row) (i : Nat) {path : List Nat} (hpath : path ≠ []) :
    row.follow (i :: path) = .null ∨
      ∃ items, row.item i = .tuple items ∧ row.follow (i :: path) = Row.follow path items := by
  rw [Row.follow, if_neg (by simpa using hpath)]
  split
  · rename_i items hitems
    exact .inr ⟨items, hitems, rfl⟩
  · exact .inl rfl

theorem Row.item_eq_some {row : Row} {i : Nat} {v : Value} (h : row.item i = v) (hv : v ≠ .null) :
    row[i]? = some v := by
  cases hi : row[i]? with
  | none => simp [Row.item, hi, hv.symm] at h
  | some w => simpa [Row.item, hi] using h

theorem Row.At.of_null {row : Row} {i : Nat} (h : row.item i = .null) (path : List Nat) :
    row.At (i :: path) .null := by
  cases hi : row[i]? with
  | none => exact .missing path hi
  | some v =>
    have hv : v = .null := by simpa [Row.item, hi] using h
    exact .null path (hv ▸ hi)

/-- There is no other value at the end of a path than the one that following it gives. -/
theorem Row.At.follow_eq {row : Row} {path : List Nat} {v : Value} (h : row.At path v) :
    row.follow path = v := by
  induction h with
  | item h => simp [Row.follow, Row.item, h]
  | missing path h => exact Row.follow_of_null (by simp [Row.item, h]) path
  | null path h => exact Row.follow_of_null (by simp [Row.item, h]) path
  | inside h hv ih =>
    refine (Row.follow_of_tuple (by simp [Row.item, h]) ?_).trans ih
    rintro rfl
    cases hv

theorem Field.getElem?_itemFields (f : Field) (i : Nat) :
    (f.nested.bind fun s => s.fields[i]?) = f.itemFields[i]? := by
  rw [itemFields]
  cases f.nested <;> rfl

/-- What every field says of null, and a field of tuples of the values inside them. -/
structure Descends (P : Field → Value → Prop) : Prop where
  null (f : Field) : P f .null
  tuple {f : Field} {v : Value} (hf : f.kind = .tuple) (h : P f v) :
    v = .null ∨ ∃ items : Row, v = .tuple items ∧
      ∀ i g, f.itemFields[i]? = some g → P g (items.item i)

namespace Descends

variable {P : Field → Value → Prop} {f g : Field} {row : Row}

theorem follow (hP : Descends P) {whole path : List Nat} {i : Nat} (h : P f (row.item i))
    (hr : f.resolve whole path = .ok g) :
    row.At (i :: path) (row.follow (i :: path)) ∧ P g (row.follow (i :: path)) := by
  induction path generalizing f row i with
  | nil =>
    rw [Field.resolve] at hr
    split at hr
    · cases hr
    · cases hr
      refine ⟨?_, h⟩
      cases hi : row[i]? with
      | none => exact Row.At.follow_eq (.missing [] hi) ▸ .missing [] hi
      | some v => exact Row.At.follow_eq (.item hi) ▸ .item hi
  | cons j path ih =>
    rw [Field.resolve] at hr
    split at hr
    · cases hr
    · rename_i hk
      split at hr
      · cases hr
      · rename_i next hnext
        rw [Field.getElem?_itemFields] at hnext
        rcases hP.tuple (Decidable.of_not_not hk) h with hnull | ⟨items, hitems, hfields⟩
        · rw [Row.follow_of_null hnull]
          exact ⟨.of_null hnull _, hP.null g⟩
        · obtain ⟨hat, hg⟩ := ih (hfields j next hnext) hr
          rw [Row.follow_of_tuple hitems (List.cons_ne_nil j path)]
          exact ⟨.inside (Row.item_eq_some hitems nofun) hat, hg⟩

/-- What holds of a record's fields holds at the end of every path that resolves. -/
theorem follow_schema (hP : Descends P) {s : Schema} {path : List Nat}
    (h : ∀ i f, s.fields[i]? = some f → P f (row.item i)) (hr : s.resolve path = .ok g) :
    row.At path (row.follow path) ∧ P g (row.follow path) := by
  cases path with
  | nil => cases hr
  | cons i path =>
    rw [Schema.resolve] at hr
    split at hr
    · cases hr
    · rename_i f hf
      exact hP.follow (h i f hf) hr

end Descends

end RangeSort
