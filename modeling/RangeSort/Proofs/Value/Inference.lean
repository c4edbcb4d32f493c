import RangeSort.Proofs.Binary.Patterns
import RangeSort.Proofs.Value.Atom
import RangeSort.Proofs.Value.Levels

/-! What an unquoted token may stand for: nothing nested, no octets, and no pattern but those of
numbers and the quiet one. -/

namespace RangeSort

namespace Numeral

/-- The words for what is no finite number have no digits. -/
theorem eq_finite_of_read {s : List Char} {c : Char} {n : Numeral} (hc : c ∈ s)
    (hdigit : c.isDigit = true) (h : read s = some n) :
    ∃ negative coefficient exponent, n = .finite negative coefficient exponent := by
  have hunsigned {negative : Bool} {t : List Char} (ht : c ∈ t)
      (h : readUnsigned negative t = some n) :
      ∃ negative coefficient exponent, n = .finite negative coefficient exponent := by
    have hword {w : String} (hw : w.toList.any Char.isDigit = false) : spells w t = false :=
      spells_eq_false ht hdigit hw
    unfold readUnsigned at h
    split at h
    · rename_i m hm
      cases h
      exact ⟨negative, eq_finite_of_readFinite hm⟩
    · simp [hword (w := "inf") (by decide), hword (w := "infinity") (by decide),
        hword (w := "nan") (by decide)] at h
  have hsign := not_isDigit_minus hdigit
  unfold read at h
  split at h
  · exact hunsigned ((List.mem_cons.mp hc).resolve_left hsign.1) h
  · exact hunsigned ((List.mem_cons.mp hc).resolve_left hsign.2) h
  · exact hunsigned hc h

end Numeral

namespace Atom

variable {s : List Char}

theorem canonical_special? {f : BinaryFormat} : ∀ bits ∈ special? f s, f.Canonical bits := by
  intro bits h
  have hinfinity (negative : Bool) :=
    BinaryFormat.canonical_withSign (Nat.le_refl f.infinity) negative
  unfold special? at h
  split at h
  · cases h
    exact f.canonical_quietNan
  · split at h
    · cases h
      exact hinfinity false
    · split at h
      · cases h
        exact hinfinity true
      · cases h

theorem canonical_numeral? {f : BinaryFormat} : ∀ bits ∈ numeral? f s, f.Canonical bits := by
  intro bits h
  unfold numeral? at h
  split at h
  · rename_i hany
    obtain ⟨c, hc, hdigit⟩ := List.any_eq_true.mp hany
    obtain ⟨n, hn, rfl⟩ := Option.map_eq_some_iff.mp h
    obtain ⟨negative, coefficient, exponent, rfl⟩ := Numeral.eq_finite_of_read hc hdigit hn
    exact BinaryFormat.canonical_withSign (f.nearestDecimal_le coefficient exponent) negative
  · cases h

theorem forall_mem_or {α : Type} {P : α → Prop} {o o' : Option α} (h : ∀ a ∈ o, P a)
    (h' : ∀ a ∈ o', P a) : ∀ a ∈ o.or o', P a := by
  intro a ha
  rcases Option.or_eq_some_iff.mp ha with ha | ⟨-, ha⟩
  · exact h a ha
  · exact h' a ha

/-- What a token stands for: nothing nested, no octets, and the quiet pattern at most. -/
def IsAtom (v : Value) : Prop :=
  v.isComposite = false ∧ v.Steady

theorem isAtom_float {bits : Nat} (h : binary32.Canonical bits) :
    IsAtom (.float (UInt32.ofNat bits)) := by
  have htoNat : (UInt32.ofNat bits).toNat = bits := UInt32.toNat_ofNat_of_lt' h.1
  refine ⟨rfl, fun hnan => ?_⟩
  rw [htoNat] at hnan
  rw [h.2 hnan]

theorem isAtom_double {bits : Nat} (h : binary64.Canonical bits) :
    IsAtom (.double (UInt64.ofNat bits)) := by
  have htoNat : (UInt64.ofNat bits).toNat = bits := UInt64.toNat_ofNat_of_lt' h.1
  refine ⟨rfl, fun hnan => ?_⟩
  rw [htoNat] at hnan
  rw [h.2 hnan]

theorem isAtom_read (s : List Char) : IsAtom (read s) := by
  have hboolean : ∀ v ∈ boolean? s, IsAtom v := by
    intro v h
    unfold boolean? at h
    split at h
    · cases h
      exact ⟨rfl, trivial⟩
    · split at h
      · cases h
        exact ⟨rfl, trivial⟩
      · cases h
  have hint : ∀ v ∈ int? s, IsAtom v := by
    intro v h
    obtain ⟨n, -, rfl⟩ := Option.map_eq_some_iff.mp h
    exact ⟨rfl, trivial⟩
  have hlong {t : List Char} : ∀ v ∈ long? t, IsAtom v := by
    intro v h
    obtain ⟨n, -, rfl⟩ := Option.map_eq_some_iff.mp h
    exact ⟨rfl, trivial⟩
  have hsuffixed : ∀ v ∈ (withoutSuffix 'L' 'l' s).bind long?, IsAtom v := by
    intro v h
    obtain ⟨t, -, ht⟩ := Option.bind_eq_some_iff.mp h
    exact hlong v ht
  have hfloat : ∀ v ∈ float? s, IsAtom v := by
    intro v h
    obtain ⟨t, -, ht⟩ := Option.bind_eq_some_iff.mp h
    obtain ⟨bits, hbits, rfl⟩ := Option.map_eq_some_iff.mp ht
    exact isAtom_float (forall_mem_or canonical_special? canonical_numeral? bits hbits)
  have hdouble : ∀ v ∈ double? s, IsAtom v := by
    intro v h
    obtain ⟨bits, hbits, rfl⟩ := Option.map_eq_some_iff.mp h
    refine isAtom_double (forall_mem_or canonical_special? (fun b hb => ?_) bits hbits)
    split at hb
    · exact canonical_numeral? b hb
    · cases hb
  have hreading := forall_mem_or (forall_mem_or (forall_mem_or (forall_mem_or
    (forall_mem_or hboolean hsuffixed) hint) (hlong (t := s))) hfloat) hdouble
  unfold read
  split
  · exact ⟨rfl, trivial⟩
  · extract_lets suffixed reading
    cases h : reading with
    | none => exact ⟨rfl, trivial⟩
    | some v => exact hreading v h

end Atom

end RangeSort
