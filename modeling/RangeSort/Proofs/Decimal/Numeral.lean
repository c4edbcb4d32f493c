import RangeSort.Decimal.Numeral
import RangeSort.Proofs.Decimal.Integer
import RangeSort.Proofs.Runs

/-! Numerals are read as the numbers that they spell. -/

namespace RangeSort

/-- Digits, a point with more digits after it unless there are none, and an exponent. -/
def numeralChars (whole fraction : List Char) (exponent : Option Int) : List Char :=
  whole ++ ((if fraction.isEmpty then [] else '.' :: fraction) ++
    exponent.elim [] fun e => 'e' :: integerChars e)

/-- The parts of a numeral that cannot be taken for an integer. -/
structure DecimalText where
  whole : List Char
  fraction : List Char
  exponent : Option Int
  wholeDigits : ∀ c ∈ whole, c.isDigit = true
  wholeNonempty : whole ≠ []
  fractionDigits : ∀ c ∈ fraction, c.isDigit = true
  exponentSmall : ∀ e ∈ exponent, e.natAbs < 65536
  marked : fraction ≠ [] ∨ exponent.isSome = true

namespace DecimalText

variable (t : DecimalText)

def chars : List Char :=
  numeralChars t.whole t.fraction t.exponent

def signedChars (negative : Bool) : List Char :=
  if negative then '-' :: t.chars else t.chars

def coefficient : Nat :=
  Nat.ofDigitChars 10 (t.whole ++ t.fraction) 0

def power : Int :=
  t.exponent.getD 0 - t.fraction.length

end DecimalText

namespace Numeral

theorem value_eq (digits : List Char) : value digits = Nat.ofDigitChars 10 digits 0 := rfl

theorem foldl_exponentValue {s : List Char} {n : Nat} (h : Nat.ofDigitChars 10 s n < 65536) :
    s.foldl (fun n c => if n < 65536 then 10 * n + digitValue c else n) n =
      Nat.ofDigitChars 10 s n := by
  induction s generalizing n with
  | nil => rfl
  | cons c s ih =>
    rw [Nat.ofDigitChars_cons] at h ⊢
    have hn : n < 65536 := by
      have := le_ofDigitChars s (10 * n + (c.toNat - '0'.toNat))
      omega
    rw [List.foldl_cons, if_pos hn]
    exact ih h

theorem exponentValue_natChars {n : Nat} (h : n < 65536) : exponentValue (natChars n) = n := by
  have := foldl_exponentValue (s := natChars n) (n := 0) (by rwa [ofDigitChars_natChars])
  rwa [ofDigitChars_natChars] at this

theorem readExponent_minus {digits : List Char} (hne : digits ≠ [])
    (hall : digits.all Char.isDigit = true) :
    readExponent ('-' :: digits) = some (-(exponentValue digits : Int)) := by
  simp [readExponent, hne, hall]

theorem readExponent_unsigned {c : Char} {s : List Char} (hc : c ≠ '-' ∧ c ≠ '+')
    (hall : (c :: s).all Char.isDigit = true) :
    readExponent (c :: s) = some (exponentValue (c :: s) : Int) := by
  unfold readExponent
  split
  rename_i negative digits heq
  split at heq
  · rename_i h
    exact absurd (List.cons.inj h).1 hc.1
  · rename_i h
    exact absurd (List.cons.inj h).1 hc.2
  · cases heq
    rw [hall]
    rfl

theorem readExponent_integerChars {z : Int} (h : z.natAbs < 65536) :
    readExponent (integerChars z) = some z := by
  have hall : (natChars z.natAbs).all Char.isDigit = true :=
    List.all_eq_true.mpr fun c => isDigit_natChars
  have hvalue := exponentValue_natChars h
  by_cases hz : z < 0
  · rw [integerChars, if_pos hz, readExponent_minus (natChars_ne_nil _) hall, hvalue]
    congr 1
    omega
  · rw [integerChars, if_neg hz]
    obtain ⟨c, s, hs⟩ := List.exists_cons_of_ne_nil (natChars_ne_nil z.natAbs)
    have hc := not_isDigit_minus (isDigit_natChars (hs ▸ List.mem_cons_self))
    rw [hs] at hall hvalue ⊢
    rw [readExponent_unsigned hc hall, hvalue]
    congr 1
    omega

theorem readFinite_eq (negative : Bool) {whole fraction rest : List Char}
    (hwhole : ∀ c ∈ whole, c.isDigit = true) (hne : whole ≠ [])
    (hfraction : ∀ c ∈ fraction, c.isDigit = true)
    (hrest : ∀ c ∈ rest.head?, c = 'e') :
    readFinite negative (whole ++ ((if fraction.isEmpty then [] else '.' :: fraction) ++ rest)) =
      match rest with
      | [] => some (.finite negative (Nat.ofDigitChars 10 (whole ++ fraction) 0)
          (-(fraction.length : Int)))
      | _ :: r => (readExponent r).map fun e =>
          .finite negative (Nat.ofDigitChars 10 (whole ++ fraction) 0) (e - fraction.length) := by
  have hdigits : ∀ c ∈ rest.head?, c.isDigit = false := by
    intro c hc
    rw [hrest c hc]
    rfl
  have hempty : whole.isEmpty = false := List.isEmpty_eq_false_iff.mpr hne
  have hpoint : ∀ c ∈ ('.' :: (fraction ++ rest)).head?, c.isDigit = false := by
    intro c hc
    cases hc
    rfl
  by_cases hf : fraction = []
  · subst hf
    simp only [List.isEmpty_nil, if_true, List.nil_append, readFinite, takeWhile_run hwhole hdigits,
      dropWhile_run hwhole hdigits, hempty, value_eq]
    cases rest with
    | nil => simp
    | cons c rest =>
      cases hrest c rfl
      simp
  · simp only [List.isEmpty_iff, hf, if_false, List.cons_append, readFinite,
      takeWhile_run hwhole hpoint, dropWhile_run hwhole hpoint, takeWhile_run hfraction hdigits,
      dropWhile_run hfraction hdigits, hempty, value_eq]
    cases rest with
    | nil => simp
    | cons c rest =>
      cases hrest c rfl
      simp

theorem readFinite_numeralChars (negative : Bool) {whole fraction : List Char}
    {exponent : Option Int} (hwhole : ∀ c ∈ whole, c.isDigit = true) (hne : whole ≠ [])
    (hfraction : ∀ c ∈ fraction, c.isDigit = true) (hexponent : ∀ e ∈ exponent, e.natAbs < 65536) :
    readFinite negative (numeralChars whole fraction exponent) =
      some (.finite negative (Nat.ofDigitChars 10 (whole ++ fraction) 0)
        (exponent.getD 0 - fraction.length)) := by
  cases exponent with
  | none =>
    rw [numeralChars, readFinite_eq negative hwhole hne hfraction (by simp)]
    simp
  | some e =>
    rw [numeralChars, readFinite_eq negative hwhole hne hfraction (by simp)]
    simp [readExponent_integerChars (hexponent e rfl)]

theorem eq_finite_of_readFinite {negative : Bool} {s : List Char} {n : Numeral}
    (h : readFinite negative s = some n) : ∃ c e, n = .finite negative c e := by
  unfold readFinite at h
  extract_lets whole afterWhole at h
  split at h
  rename_i fraction rest _
  by_cases hempty : (whole.isEmpty && fraction.isEmpty) = true
  · simp [hempty] at h
  · rw [if_neg hempty] at h
    cases rest with
    | nil => exact ⟨_, _, (Option.some.inj h).symm⟩
    | cons c r =>
      by_cases hmark : (c = 'e' || c = 'E') = true
      · obtain ⟨e, -, he⟩ := Option.map_eq_some_iff.mp ((if_pos hmark).symm.trans h)
        exact ⟨_, _, he.symm⟩
      · cases (if_neg hmark).symm.trans h

end Numeral

theorem isDigit_of_mem_integerChars {z : Int} {c : Char} (h : c ∈ integerChars z) :
    c.isDigit = true ∨ c = '-' := by
  unfold integerChars at h
  split at h
  · rcases List.mem_cons.mp h with rfl | h
    · exact .inr rfl
    · exact .inl (isDigit_natChars h)
  · exact .inl (isDigit_natChars h)

theorem isDigit_getLast?_of_all {s : List Char} (h : ∀ c ∈ s, c.isDigit = true) :
    ∀ c ∈ s.getLast?, c.isDigit = true :=
  fun c hc => h c (List.mem_of_getLast? hc)

theorem getLast?_append_ne_nil {α : Type} (s : List α) {t : List α} (h : t ≠ []) :
    (s ++ t).getLast? = t.getLast? := by
  rw [List.getLast?_append, List.getLast?_eq_some_getLast h, Option.some_or]

theorem integerChars_ne_nil (z : Int) : integerChars z ≠ [] := by
  unfold integerChars
  split
  · exact List.cons_ne_nil _ _
  · exact natChars_ne_nil _

theorem isDigit_getLast?_integerChars (z : Int) : ∀ c ∈ (integerChars z).getLast?, c.isDigit = true := by
  have hdigits := isDigit_getLast?_of_all (s := natChars z.natAbs) fun c => isDigit_natChars
  unfold integerChars
  split
  · rw [← List.singleton_append, getLast?_append_ne_nil _ (natChars_ne_nil _)]
    exact hdigits
  · exact hdigits

namespace DecimalText

variable (t : DecimalText)

theorem mem_chars {c : Char} (h : c ∈ t.chars) :
    c.isDigit = true ∨ c = '.' ∨ c = 'e' ∨ c = '-' := by
  rcases List.mem_append.mp h with h | h
  · exact .inl (t.wholeDigits c h)
  rcases List.mem_append.mp h with h | h
  · split at h
    · cases h
    · rcases List.mem_cons.mp h with rfl | h
      · exact .inr (.inl rfl)
      · exact .inl (t.fractionDigits c h)
  · cases he : t.exponent with
    | none =>
      rw [he] at h
      cases h
    | some e =>
      rw [he] at h
      rcases List.mem_cons.mp h with rfl | h
      · exact .inr (.inr (.inl rfl))
      · exact (isDigit_of_mem_integerChars h).imp id fun h => .inr (.inr h)

theorem exists_chars_eq_cons : ∃ c s, t.chars = c :: s ∧ c.isDigit = true := by
  obtain ⟨c, s, hs⟩ := List.exists_cons_of_ne_nil t.wholeNonempty
  have hc := t.wholeDigits c (hs ▸ List.mem_cons_self)
  rw [chars, numeralChars, hs, List.cons_append]
  exact ⟨c, _, rfl, hc⟩

theorem mark_mem_chars : '.' ∈ t.chars ∨ 'e' ∈ t.chars := by
  rcases t.marked with h | h
  · left
    simp [chars, numeralChars, h]
  · right
    obtain ⟨e, he⟩ := Option.isSome_iff_exists.mp h
    simp [chars, numeralChars, he]

theorem read_signedChars (negative : Bool) :
    Numeral.read (t.signedChars negative) = some (.finite negative t.coefficient t.power) := by
  have hfinite := Numeral.readFinite_numeralChars negative t.wholeDigits t.wholeNonempty
    t.fractionDigits t.exponentSmall
  have hunsigned : Numeral.readUnsigned negative t.chars =
      some (.finite negative t.coefficient t.power) := by
    rw [Numeral.readUnsigned, chars, hfinite]
    rfl
  cases negative with
  | true => exact hunsigned
  | false =>
    obtain ⟨c, s, hs, hc⟩ := t.exists_chars_eq_cons
    have hsign := not_isDigit_minus hc
    rw [hs] at hunsigned
    rw [signedChars, if_neg Bool.false_ne_true, hs, Numeral.read]
    · exact hunsigned
    · intro r hr
      exact hsign.1 (List.cons.inj hr).1
    · intro r hr
      exact hsign.2 (List.cons.inj hr).1

theorem isDigit_getLast? : ∀ c ∈ t.chars.getLast?, c.isDigit = true := by
  rw [chars, numeralChars]
  cases he : t.exponent with
  | some e =>
    rw [Option.elim_some, getLast?_append_ne_nil _ (by simp), getLast?_append_ne_nil _ (by simp),
      ← List.singleton_append, getLast?_append_ne_nil _ (integerChars_ne_nil e)]
    exact isDigit_getLast?_integerChars e
  | none =>
    have hne : t.fraction ≠ [] := by simpa [he] using t.marked
    rw [Option.elim_none, List.append_nil, if_neg (by simpa using hne),
      getLast?_append_ne_nil _ (by simp), ← List.singleton_append, getLast?_append_ne_nil _ hne]
    exact isDigit_getLast?_of_all t.fractionDigits

section Signed

variable (negative : Bool)

theorem mem_signedChars_of_mem {c : Char} (h : c ∈ t.chars) : c ∈ t.signedChars negative := by
  cases negative with
  | true => exact List.mem_cons_of_mem _ h
  | false => exact h

theorem mem_signedChars {c : Char} (h : c ∈ t.signedChars negative) :
    c.isDigit = true ∨ c = '.' ∨ c = 'e' ∨ c = '-' := by
  cases negative with
  | true =>
    rcases List.mem_cons.mp h with rfl | h
    · exact .inr (.inr (.inr rfl))
    · exact t.mem_chars h
  | false => exact t.mem_chars h

theorem exists_isDigit_signedChars : ∃ c ∈ t.signedChars negative, c.isDigit = true := by
  obtain ⟨c, s, hs, hc⟩ := t.exists_chars_eq_cons
  exact ⟨c, t.mem_signedChars_of_mem negative (hs ▸ List.mem_cons_self), hc⟩

theorem isDigit_getLast?_signedChars : ∀ c ∈ (t.signedChars negative).getLast?, c.isDigit = true := by
  cases negative with
  | true =>
    obtain ⟨c, s, hs, -⟩ := t.exists_chars_eq_cons
    rw [signedChars, if_pos rfl, ← List.singleton_append, getLast?_append_ne_nil _ (by simp [hs])]
    exact t.isDigit_getLast?
  | false => exact t.isDigit_getLast?

end Signed

end DecimalText

end RangeSort
