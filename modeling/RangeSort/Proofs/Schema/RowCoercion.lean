import RangeSort.Proofs.Schema.Conformity
import RangeSort.Schema.RowCoercion

/-! Coerced values have the kind that they were coerced to, unless they are null. -/

namespace RangeSort

/-- Kinds whose values are interpreted from text and dropped where that fails. -/
def Kind.isScalar (kind : Kind) : Bool :=
  kind.isNumeric || kind = .boolean

namespace Coerced

variable {target : Kind} {octets : Octets} {v : Value} {c : Coerced Value}

/-- A scalar is kept with at most one warning, or dropped with one. -/
inductive Interpreted (target : Kind) : Coerced Value → Prop
  | kept {v : Value} {warnings : List Warning} (hkind : v.kind = target) (hnull : v ≠ .null)
      (hlength : warnings.length ≤ 1) : Interpreted target ⟨.ok v, warnings⟩
  | dropped (w : Warning) : Interpreted target ⟨.ok .null, [w]⟩

theorem interpreted_integer {bits : Nat} {wrap : Int → Value} (hkind : ∀ n, (wrap n).kind = target)
    (hnull : ∀ n, wrap n ≠ .null) : (integer target bits wrap octets).Interpreted target := by
  unfold integer
  dsimp only
  split
  · exact .kept (hkind _) (hnull _) (Nat.zero_le 1)
  · exact .kept (hkind _) (hnull _) (Nat.le_refl 1)
  · exact .dropped _
  · exact .dropped _

theorem interpreted_number {f : BinaryFormat} {wrap : Nat → Value}
    (hkind : ∀ bits, (wrap bits).kind = target) (hnull : ∀ bits, wrap bits ≠ .null) :
    (number target f wrap octets).Interpreted target := by
  unfold number
  dsimp only
  split
  · exact .kept (hkind _) (hnull _) (Nat.zero_le 1)
  · exact .dropped _

theorem interpreted_boolean : (boolean octets).Interpreted .boolean := by
  unfold boolean
  dsimp only
  split
  · exact .kept rfl nofun (Nat.zero_le 1)
  · split
    · exact .kept rfl nofun (Nat.zero_le 1)
    · exact .dropped _

theorem interpreted_present (h : target.isScalar = true) :
    (present octets target).Interpreted target := by
  cases target with
  | boolean => exact interpreted_boolean
  | int | long => exact interpreted_integer (fun _ => rfl) fun _ => nofun
  | float | double => exact interpreted_number (fun _ => rfl) fun _ => nofun
  | _ => cases h

theorem Interpreted.kind_eq (hc : c.Interpreted target) (h : c.result = .ok v) :
    v = .null ∨ v.kind = target := by
  cases hc with
  | kept hkind hnull hlength =>
    cases h
    exact .inr hkind
  | dropped w =>
    cases h
    exact .inl rfl

theorem ofRead_of_ne_null (h : v ≠ .null) :
    ofRead target (.ok v) =
      if v.kind = target then value v else ⟨.error (.wrongKind target v.kind), []⟩ := by
  cases v <;> first | rfl | exact absurd rfl h

theorem of_composite (h : (composite target octets).result = .ok v) :
    Value.read octets = .ok v ∧ (v = .null ∨ v.kind = target) := by
  unfold composite at h
  cases hread : Value.read octets with
  | error e =>
    rw [hread] at h
    cases h
  | ok w =>
    rw [hread] at h
    by_cases hnull : w = .null
    · subst hnull
      cases h
      exact ⟨rfl, .inl rfl⟩
    · rw [ofRead_of_ne_null hnull] at h
      split at h
      · rename_i hkind
        cases h
        exact ⟨rfl, .inr hkind⟩
      · cases h

end Coerced

theorem kind_of_coerce {kind : Kind} {raw : Option Octets} {v : Value}
    (h : (coerce kind raw).result = .ok v) : v = .null ∨ v.kind = kind.stored := by
  cases raw with
  | none =>
    cases h
    exact .inl rfl
  | some octets =>
    cases kind with
    | boolean | int | long | float | double => exact (Coerced.interpreted_present rfl).kind_eq h
    | text | bytes | unknown =>
      cases h
      exact .inr rfl
    | map | tuple | bag => exact (Coerced.of_composite h).2

/-- A tuple is what the octets of its field are read as. -/
theorem read_of_coerce_tuple {raw : Option Octets} {items : Row}
    (h : (coerce .tuple raw).result = .ok (.tuple items)) :
    ∃ octets, raw = some octets ∧ Value.read octets = .ok (.tuple items) := by
  cases raw with
  | none => cases h
  | some octets => exact ⟨octets, rfl, (Coerced.of_composite h).1⟩

theorem item_of_coerceFields {fs : List Field} {raw : List (Option Octets)} {row : Row}
    (h : (coerceFields fs raw).result = .ok row) {i : Nat} {f : Field} (hf : fs[i]? = some f) :
    (coerce f.kind raw[i]?.join).result = .ok (row.item i) := by
  induction fs generalizing raw row i with
  | nil => cases hf
  | cons g fs ih =>
    rw [coerceFields] at h
    dsimp only at h
    split at h
    · cases h
    · rename_i v hv
      obtain ⟨rest, hrest, rfl⟩ := Except.map_eq_ok.mp h
      cases i with
      | zero =>
        cases hf
        cases raw <;> exact hv
      | succ i =>
        have hitem := ih hrest hf
        cases raw <;> exact hitem

end RangeSort
