import RangeSort.Proofs.Decimal.Numeral

/-! Spellings of whole numbers: a sign, which may be missing, and digits, the first of which may
be zeros. -/

namespace RangeSort

inductive Spelling : Int → List Char → Prop
  | unsigned {digits : List Char} (hne : digits ≠ []) (h : ∀ c ∈ digits, c.isDigit = true) :
      Spelling (Nat.ofDigitChars 10 digits 0 : Nat) digits
  | plus {digits : List Char} (hne : digits ≠ []) (h : ∀ c ∈ digits, c.isDigit = true) :
      Spelling (Nat.ofDigitChars 10 digits 0 : Nat) ('+' :: digits)
  | minus {digits : List Char} (hne : digits ≠ []) (h : ∀ c ∈ digits, c.isDigit = true) :
      Spelling (-(Nat.ofDigitChars 10 digits 0 : Nat)) ('-' :: digits)

theorem of_readMagnitude {limit : Nat} {beyond : IntegerFault} {n m : Nat} {s : List Char}
    (hn : n ≤ limit) (h : readMagnitude limit beyond n s = .ok m) :
    m ≤ limit ∧ m = Nat.ofDigitChars 10 s n := by
  induction s generalizing n with
  | nil =>
    cases h
    exact ⟨hn, rfl⟩
  | cons c s ih =>
    rw [readMagnitude] at h
    split at h
    · dsimp only at h
      split at h
      · rename_i hle
        rw [Nat.ofDigitChars_cons]
        exact ih hle h
      · cases h
    · cases h

namespace Spelling

variable {z : Int} {s : List Char} {bits : Nat}

theorem of_readInteger (h : readInteger bits s = .ok z) :
    Spelling z s ∧ -2 ^ bits ≤ z ∧ z < 2 ^ bits := by
  have hpow : ((2 ^ bits : Nat) : Int) = 2 ^ bits := by simp
  have hpos : 0 < 2 ^ bits := Nat.pow_pos Nat.zero_lt_two
  have hread {limit : Nat} {beyond : IntegerFault} {t : List Char} {f : Nat → Int}
      (ht : (readMagnitude limit beyond 0 t).map f = .ok z) :
      (∀ c ∈ t, c.isDigit = true) ∧ Nat.ofDigitChars 10 t 0 ≤ limit ∧
        f (Nat.ofDigitChars 10 t 0) = z := by
    obtain ⟨m, hm, hz⟩ := Except.map_eq_ok.mp ht
    obtain ⟨hle, rfl⟩ := of_readMagnitude (Nat.zero_le limit) hm
    exact ⟨isDigit_of_readMagnitude hm, hle, hz⟩
  unfold readInteger at h
  split at h
  · cases h
  · rename_i c rest
    split at h
    · rename_i hc
      split at h
      · cases h
      · rename_i hempty
        have hne : rest ≠ [] := by simpa using hempty
        split at h
        · rename_i hminus
          obtain ⟨hdigits, hle, rfl⟩ := hread h
          exact ⟨hminus ▸ .minus hne hdigits, by omega, by omega⟩
        · rename_i hminus
          have hplus : c = '+' := by simpa [hminus] using hc
          obtain ⟨hdigits, hle, rfl⟩ := hread h
          simp only [Int.ofNat_eq_natCast]
          exact ⟨hplus ▸ .plus hne hdigits, by omega, by omega⟩
    · obtain ⟨hdigits, hle, rfl⟩ := hread h
      simp only [Int.ofNat_eq_natCast]
      exact ⟨.unsigned (List.cons_ne_nil c rest) hdigits, by omega, by omega⟩

theorem readInteger_eq (h : Spelling z s) (hlow : -2 ^ bits ≤ z) (hhigh : z < 2 ^ bits) :
    readInteger bits s = .ok z := by
  have hpow : ((2 ^ bits : Nat) : Int) = 2 ^ bits := by simp
  cases h with
  | unsigned hne h =>
    obtain ⟨c, rest, rfl⟩ := List.exists_cons_of_ne_nil hne
    rw [readInteger_unsigned bits rest (not_isDigit_minus (h c List.mem_cons_self)),
      readMagnitude_eq_ok h (by omega)]
    rfl
  | plus hne h =>
    rw [readInteger_plus bits hne, readMagnitude_eq_ok h (by omega)]
    rfl
  | minus hne h =>
    rw [readInteger_minus bits hne, readMagnitude_eq_ok h (by omega)]
    rfl

/-- Integers are read from their spellings and from nothing else. -/
theorem readInteger_eq_ok_iff :
    readInteger bits s = .ok z ↔ Spelling z s ∧ -2 ^ bits ≤ z ∧ z < 2 ^ bits :=
  ⟨of_readInteger, fun ⟨h, hlow, hhigh⟩ => h.readInteger_eq hlow hhigh⟩

theorem readInteger_of_le {narrow wide : Nat} (hle : narrow ≤ wide)
    (h : readInteger narrow s = .ok z) : readInteger wide s = .ok z := by
  have hpow : (2 : Int) ^ narrow ≤ 2 ^ wide := by
    exact_mod_cast Nat.pow_le_pow_right Nat.zero_lt_two hle
  obtain ⟨hz, hlow, hhigh⟩ := readInteger_eq_ok_iff.mp h
  exact readInteger_eq_ok_iff.mpr ⟨hz, by omega, by omega⟩

theorem ne_nil (h : Spelling z s) : s ≠ [] := by
  cases h with
  | unsigned hne h => exact hne
  | plus hne h => exact List.cons_ne_nil _ _
  | minus hne h => exact List.cons_ne_nil _ _

theorem isDigit_or_sign (h : Spelling z s) : ∀ c ∈ s, c.isDigit = true ∨ c = '+' ∨ c = '-' := by
  intro c hc
  cases h with
  | unsigned hne h => exact .inl (h c hc)
  | plus hne h => exact (List.mem_cons.mp hc).elim (fun hc => .inr (.inl hc)) fun hc => .inl (h c hc)
  | minus hne h => exact (List.mem_cons.mp hc).elim (fun hc => .inr (.inr hc)) fun hc => .inl (h c hc)

theorem isDigit_getLast? (h : Spelling z s) : ∀ c ∈ s.getLast?, c.isDigit = true := by
  cases h with
  | unsigned hne h => exact isDigit_getLast?_of_all h
  | plus hne h =>
    rw [← List.singleton_append, getLast?_append_ne_nil _ hne]
    exact isDigit_getLast?_of_all h
  | minus hne h =>
    rw [← List.singleton_append, getLast?_append_ne_nil _ hne]
    exact isDigit_getLast?_of_all h

/-- As a numeral, a spelling has no point and no exponent. -/
theorem read_eq (h : Spelling z s) :
    ∃ negative, Numeral.read s = some (.finite negative z.natAbs 0) ∧
      z = if negative then -(z.natAbs : Int) else z.natAbs := by
  have hunsigned (negative : Bool) {digits : List Char} (hne : digits ≠ [])
      (h : ∀ c ∈ digits, c.isDigit = true) : Numeral.readUnsigned negative digits =
        some (.finite negative (Nat.ofDigitChars 10 digits 0) 0) := by
    have hfinite : Numeral.readFinite negative (numeralChars digits [] none) = _ :=
      Numeral.readFinite_numeralChars negative h hne nofun nofun
    simp only [numeralChars, List.isEmpty_nil, if_true, Option.elim_none, List.append_nil,
      Option.getD_none, List.length_nil] at hfinite
    rw [Numeral.readUnsigned, hfinite]
    rfl
  cases h with
  | unsigned hne h =>
    obtain ⟨c, rest, rfl⟩ := List.exists_cons_of_ne_nil hne
    have hsign := not_isDigit_minus (h c List.mem_cons_self)
    refine ⟨false, ?_, by simp⟩
    rw [Numeral.read, hunsigned false hne h, Int.natAbs_natCast]
    · intro r hr
      exact hsign.1 (List.cons.inj hr).1
    · intro r hr
      exact hsign.2 (List.cons.inj hr).1
  | plus hne h => exact ⟨false, by rw [Numeral.read, hunsigned false hne h, Int.natAbs_natCast], by simp⟩
  | minus hne h =>
    exact ⟨true, by rw [Numeral.read, hunsigned true hne h, Int.natAbs_neg, Int.natAbs_natCast], by simp⟩

end Spelling

end RangeSort
