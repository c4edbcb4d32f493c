import RangeSort.Decimal.Integer
import RangeSort.Proofs.Except

/-! Whole numbers are read back from their digits. -/

namespace RangeSort

theorem isDigit_natChars {n : Nat} {c : Char} (h : c ∈ natChars n) : c.isDigit = true :=
  Nat.isDigit_of_mem_toDigits (by decide) (by decide) h

theorem natChars_ne_nil (n : Nat) : natChars n ≠ [] :=
  Nat.toDigits_ne_nil

theorem ofDigitChars_natChars (n : Nat) : Nat.ofDigitChars 10 (natChars n) 0 = n :=
  Nat.ofDigitChars_ten_toDigits

theorem le_ofDigitChars (s : List Char) (n : Nat) : n ≤ Nat.ofDigitChars 10 s n := by
  have hpos : 0 < 10 ^ s.length := Nat.pow_pos (by decide)
  have : n ≤ 10 ^ s.length * n := Nat.le_mul_of_pos_left n hpos
  rw [Nat.ofDigitChars_eq_ofDigitChars_zero]
  omega

theorem not_isDigit_minus {c : Char} (h : c.isDigit = true) : c ≠ '-' ∧ c ≠ '+' := by
  constructor <;> rintro rfl <;> simp at h

theorem readMagnitude_eq_ok {limit : Nat} {beyond : IntegerFault} {n : Nat} {s : List Char}
    (hs : ∀ c ∈ s, c.isDigit = true) (hlimit : Nat.ofDigitChars 10 s n ≤ limit) :
    readMagnitude limit beyond n s = .ok (Nat.ofDigitChars 10 s n) := by
  induction s generalizing n with
  | nil => rw [readMagnitude, Nat.ofDigitChars_nil]
  | cons c s ih =>
    rw [Nat.ofDigitChars_cons] at hlimit ⊢
    have hm : 10 * n + digitValue c ≤ limit := Nat.le_trans (le_ofDigitChars s _) hlimit
    rw [readMagnitude, if_pos (hs c List.mem_cons_self)]
    dsimp only
    rw [if_pos hm]
    exact ih (fun d hd => hs d (List.mem_cons_of_mem c hd)) hlimit

theorem isDigit_of_readMagnitude {limit : Nat} {beyond : IntegerFault} {n m : Nat} {s : List Char}
    (h : readMagnitude limit beyond n s = .ok m) : ∀ c ∈ s, c.isDigit = true := by
  induction s generalizing n with
  | nil => exact nofun
  | cons c s ih =>
    rw [readMagnitude] at h
    split at h
    · rename_i hc
      dsimp only at h
      split at h
      · intro d hd
        rcases List.mem_cons.mp hd with rfl | hd
        · exact hc
        · exact ih h d hd
      · cases h
    · cases h

theorem readInteger_minus (bits : Nat) {s : List Char} (h : s ≠ []) :
    readInteger bits ('-' :: s) =
      (readMagnitude (2 ^ bits) .below 0 s).map fun n : Nat => -(n : Int) := by
  cases s with
  | nil => exact absurd rfl h
  | cons c s => rfl

theorem readInteger_plus (bits : Nat) {s : List Char} (h : s ≠ []) :
    readInteger bits ('+' :: s) = (readMagnitude (2 ^ bits - 1) .above 0 s).map Int.ofNat := by
  cases s with
  | nil => exact absurd rfl h
  | cons c s => rfl

theorem readInteger_unsigned (bits : Nat) {c : Char} (s : List Char) (h : c ≠ '-' ∧ c ≠ '+') :
    readInteger bits (c :: s) = (readMagnitude (2 ^ bits - 1) .above 0 (c :: s)).map Int.ofNat := by
  simp only [readInteger, h.1, h.2, decide_false, Bool.or_self, Bool.false_eq_true, if_false]

theorem readInteger_integerChars {bits : Nat} {z : Int} (hlow : -2 ^ bits ≤ z) (hhigh : z < 2 ^ bits) :
    readInteger bits (integerChars z) = .ok z := by
  have hpow : ((2 ^ bits : Nat) : Int) = 2 ^ bits := by simp
  have hdigits : ∀ c ∈ natChars z.natAbs, c.isDigit = true := fun c => isDigit_natChars
  by_cases hz : z < 0
  · have hbound : Nat.ofDigitChars 10 (natChars z.natAbs) 0 ≤ 2 ^ bits := by
      rw [ofDigitChars_natChars]
      omega
    rw [integerChars, if_pos hz, readInteger_minus bits (natChars_ne_nil _),
      readMagnitude_eq_ok hdigits hbound, ofDigitChars_natChars, Except.map_ok]
    congr 1
    omega
  · have hbound : Nat.ofDigitChars 10 (natChars z.natAbs) 0 ≤ 2 ^ bits - 1 := by
      rw [ofDigitChars_natChars]
      omega
    rw [integerChars, if_neg hz]
    have hmagnitude : readMagnitude (2 ^ bits - 1) .above 0 (natChars z.natAbs) = _ :=
      readMagnitude_eq_ok hdigits hbound
    obtain ⟨c, s, hs⟩ := List.exists_cons_of_ne_nil (natChars_ne_nil z.natAbs)
    have hc := not_isDigit_minus (isDigit_natChars (hs ▸ List.mem_cons_self))
    rw [ofDigitChars_natChars, hs] at hmagnitude
    rw [hs, readInteger_unsigned bits s hc, hmagnitude, Except.map_ok]
    congr 1
    show (z.natAbs : Int) = z
    omega

theorem chars_of_readInteger {bits : Nat} {s : List Char} {z : Int}
    (h : readInteger bits s = .ok z) : ∀ c ∈ s, c.isDigit = true ∨ c = '+' ∨ c = '-' := by
  have hread {limit : Nat} {beyond : IntegerFault} {t : List Char} {f : Nat → Int}
      (ht : (readMagnitude limit beyond 0 t).map f = .ok z) : ∀ c ∈ t, c.isDigit = true := by
    obtain ⟨m, hm, -⟩ := Except.map_eq_ok.mp ht
    exact isDigit_of_readMagnitude hm
  unfold readInteger at h
  split at h
  · cases h
  · rename_i c rest
    split at h
    · rename_i hc
      have hsign : c = '+' ∨ c = '-' := by simpa using hc
      split at h
      · cases h
      · intro d hd
        rcases List.mem_cons.mp hd with rfl | hd
        · exact .inr hsign
        · split at h <;> exact .inl (hread h d hd)
    · exact fun d hd => .inl (hread h d hd)

end RangeSort
