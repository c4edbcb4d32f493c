import RangeSort.Coercion
import RangeSort.Proofs.Decimal.Spelling
import RangeSort.Proofs.Value.Atom

/-! Numerals with blanks around them are read like the numerals alone, and so is all that floats
are written as. -/

namespace RangeSort

theorem isBlank_of_isDigit {c : Char} (h : c.isDigit = true) : isBlank c = false := by
  simp only [Char.isDigit, Bool.and_eq_true, decide_eq_true_eq, ge_iff_le,
    UInt32.le_iff_toNat_le] at h
  have hlow : 48 ≤ c.toNat := h.1
  have hhigh : c.toNat ≤ 57 := h.2
  simp only [isBlank, Bool.or_eq_false_iff, Bool.and_eq_false_iff, decide_eq_false_iff_not,
    beq_eq_false_iff_ne]
  omega

section Padded

variable {before after s : List Char} (hbefore : ∀ c ∈ before, isBlank c = true)
  (hafter : ∀ c ∈ after, isBlank c = true)

include hbefore hafter

theorem trimBlank_padded (hne : s ≠ []) (hhead : ∀ c ∈ s.head?, isBlank c = false)
    (hlast : ∀ c ∈ s.getLast?, isBlank c = false) : trimBlank (before ++ s ++ after) = s := by
  have hleft : ∀ c ∈ (s ++ after).head?, isBlank c = false := by
    rwa [List.head?_append_of_ne_nil s hne]
  have hright : ∀ c ∈ s.reverse.head?, isBlank c = false := by
    rwa [List.head?_reverse]
  rw [trimBlank, List.append_assoc, dropWhile_run hbefore hleft, List.reverse_append,
    dropWhile_run (fun c hc => hafter c (List.mem_reverse.mp hc)) hright, List.reverse_reverse]

/-- A text that ends with a digit is no word, and has no suffix to be taken off. -/
theorem readField_padded (f : BinaryFormat) (hne : s ≠ [])
    (hhead : ∀ c ∈ s.head?, isBlank c = false) (hlast : ∀ c ∈ s.getLast?, c.isDigit = true) :
    f.readField (before ++ s ++ after) = f.read s := by
  have htrim := trimBlank_padded hbefore hafter hne hhead fun c hc => isBlank_of_isDigit (hlast c hc)
  obtain ⟨d, hd⟩ := Option.isSome_iff_exists.mp (List.getLast?_isSome.mpr hne)
  have hdigit := hlast d hd
  have hword {w : String} (hw : w.toList.any Char.isDigit = false) : spells w s = false :=
    spells_eq_false (List.mem_of_getLast? hd) hdigit hw
  have hsuffix : (d = 'd' || d = 'D' || d = 'f' || d = 'F') = false := by
    simp only [Bool.or_eq_false_iff, decide_eq_false_iff_not]
    refine ⟨⟨⟨?_, ?_⟩, ?_⟩, ?_⟩ <;> exact ne_of_class hdigit (by decide)
  simp only [BinaryFormat.readField, htrim, hword (w := "inf") (by decide),
    hword (w := "+inf") (by decide), hword (w := "infinity") (by decide),
    hword (w := "+infinity") (by decide), hword (w := "-inf") (by decide),
    hword (w := "-infinity") (by decide), hword (w := "nan") (by decide), Bool.or_self,
    Bool.false_eq_true, if_false]
  rw [hd]
  dsimp only
  rw [hsuffix, if_neg Bool.false_ne_true]

/-- A whole number is rounded, whatever sign and zeros it is spelled with. -/
theorem readField_spelling (f : BinaryFormat) {z : Int} (h : Spelling z s) :
    ∃ negative, f.readField (before ++ s ++ after) =
        some (f.withSign negative (f.nearestDecimal z.natAbs 0)) ∧
      z = if negative then -(z.natAbs : Int) else z.natAbs := by
  have hhead : ∀ c ∈ s.head?, isBlank c = false := by
    intro c hc
    rcases h.isDigit_or_sign c (List.mem_of_mem_head? hc) with hdigit | rfl | rfl
    · exact isBlank_of_isDigit hdigit
    · decide
    · decide
  obtain ⟨negative, hread, hz⟩ := h.read_eq
  refine ⟨negative, ?_, hz⟩
  rw [readField_padded hbefore hafter f h.ne_nil hhead h.isDigit_getLast?, BinaryFormat.read, hread]
  rfl

end Padded

theorem readField_spelled {f : BinaryFormat} {bits : Nat} {s : List Char} (h : f.Spelled bits s) :
    f.readField s = some (if f.isNan bits then f.quietNan else bits) := by
  cases h with
  | nan h =>
    rw [if_pos h]
    rfl
  | infinite negative hnan h =>
    rw [hnan, if_neg Bool.false_ne_true, ← h]
    cases negative with
    | true => rfl
    | false => rfl
  | finite negative t hnan h =>
    obtain ⟨c, hc, -⟩ := t.exists_isDigit_signedChars negative
    have hhead : ∀ d ∈ (t.signedChars negative).head?, isBlank d = false := by
      intro d hd
      rcases t.mem_signedChars negative (List.mem_of_mem_head? hd) with hdigit | rfl | rfl | rfl
      · exact isBlank_of_isDigit hdigit
      · decide
      · decide
      · decide
    have hfield := readField_padded (show ∀ c ∈ [], isBlank c = true from nofun)
      (show ∀ c ∈ [], isBlank c = true from nofun) f (List.ne_nil_of_mem hc) hhead
      (t.isDigit_getLast?_signedChars negative)
    rw [List.nil_append, List.append_nil, BinaryFormat.read, t.read_signedChars] at hfield
    rw [hfield, hnan, if_neg Bool.false_ne_true, ← h]
    rfl

end RangeSort
