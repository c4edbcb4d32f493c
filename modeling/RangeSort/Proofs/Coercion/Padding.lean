import RangeSort.Proofs.Coercion.WholeNumber
import RangeSort.Proofs.Text.Utf8

/-! Whole numbers with blanks around them. The blanks keep them from being read as integers, so
they are read as doubles, and a long number may be rounded. -/

namespace RangeSort

/-- Of the longs that are no doubles, rounding gives back the last one only: it is rounded up,
and what is too large is brought back to the end of the range. -/
theorem capped_eq_iff {z : Int} {k : Nat} (hlow : -2 ^ 63 ≤ z) (hhigh : z < 2 ^ 63)
    (hk : binary64.NearestTo z.natAbs k) :
    min (z.sign * k) (2 ^ 63 - 1) = z ↔ binary64.Represents z.natAbs ∨ z = 2 ^ 63 - 1 := by
  constructor
  · intro heq
    by_cases hend : z = 2 ^ 63 - 1
    · exact .inr hend
    · have hrounded : z.sign * k = z := by omega
      by_cases hzero : z = 0
      · exact .inl (hzero ▸ BinaryFormat.represents_of_lt (by decide))
      · have habs := congrArg Int.natAbs hrounded
        rw [Int.natAbs_mul, Int.natAbs_sign_of_ne_zero hzero, Int.natAbs_natCast, Nat.one_mul] at habs
        exact .inl (habs ▸ hk.1)
  · rintro (hrepresents | rfl)
    · rw [hk.eq_of_represents hrepresents, Int.sign_mul_natAbs]
      omega
    · have hpower : binary64.Represents (2 ^ 63) := ⟨1, 63, by decide, (Nat.one_mul _).symm⟩
      have hdist : Nat.dist k (2 ^ 63 - 1) ≤ Nat.dist (2 ^ 63) (2 ^ 63 - 1) := hk.2 _ hpower
      unfold Nat.dist at hdist
      -- Doubles from `2 ^ 62` on are multiples of `2 ^ 10`.
      have hdvd : 2 ^ 10 ∣ k := hk.1.dvd (i := 9) (by
        show 2 * 2 ^ 52 * 2 ^ 9 ≤ k
        omega)
      have hk : k = 2 ^ 63 := by omega
      rw [hk]
      decide

theorem readInteger_unpadded {before after s : List Char} {z : Int} {bits : Nat}
    (hpad : before ++ after = []) (h : Spelling z s) (hlow : -2 ^ bits ≤ z) (hhigh : z < 2 ^ bits) :
    readInteger bits (before ++ s ++ after) = .ok z := by
  obtain ⟨rfl, rfl⟩ := List.append_eq_nil_iff.mp hpad
  rw [List.nil_append, List.append_nil, h.readInteger_eq hlow hhigh]

section Padded

variable {before after s : List Char} {z : Int} {bits : Nat}
  (hbefore : ∀ c ∈ before, isBlank c = true) (hafter : ∀ c ∈ after, isBlank c = true)

include hbefore hafter

theorem exists_error_of_padded (hpad : before ++ after ≠ []) (bits : Nat) (s : List Char) :
    ∃ cause, readInteger bits (before ++ s ++ after) = .error cause := by
  obtain ⟨c, hc⟩ := List.exists_mem_of_ne_nil _ hpad
  have hblank : isBlank c = true := (List.mem_append.mp hc).elim (hbefore c) (hafter c)
  have hmem : c ∈ before ++ s ++ after := by
    rcases List.mem_append.mp hc with hc | hc
    · exact List.mem_append_left _ (List.mem_append_left _ hc)
    · exact List.mem_append_right _ hc
  cases hread : readInteger bits (before ++ s ++ after) with
  | error cause => exact ⟨cause, rfl⟩
  | ok n =>
    rcases chars_of_readInteger hread c hmem with hdigit | rfl | rfl
    · rw [isBlank_of_isDigit hdigit] at hblank
      cases hblank
    · cases hblank
    · cases hblank

theorem exists_ok_iff_of_spelling (h : Spelling z s) (hlow : -2 ^ bits ≤ z) (hhigh : z < 2 ^ bits) :
    (∃ n, readInteger bits (before ++ s ++ after) = .ok n) ↔ before ++ after = [] := by
  constructor
  · rintro ⟨n, hn⟩
    by_contra hpad
    obtain ⟨cause, hcause⟩ := exists_error_of_padded hbefore hafter hpad bits s
    rw [hn] at hcause
    cases hcause
  · intro hpad
    exact ⟨z, readInteger_unpadded hpad h hlow hhigh⟩

theorem warnings_padded (target : Kind) (wrap : Int → Value) (h : Spelling z s)
    (hlow : -2 ^ bits ≤ z) (hhigh : z < 2 ^ bits) :
    (Coerced.integer target bits wrap (Utf8.encode (before ++ s ++ after))).warnings = [] ↔
      before ++ after = [] := by
  rw [Coerced.warnings_integer, Utf8.decode_encode]
  exact exists_ok_iff_of_spelling hbefore hafter h hlow hhigh

namespace WholeNumber

/-- A number with few digits is a double. -/
theorem kept_padded_short (hbits : bits ≤ 52) (h : Spelling z s) (hlow : -2 ^ bits ≤ z)
    (hhigh : z < 2 ^ bits) : (read bits (before ++ s ++ after)).kept = some z := by
  have hpow : ((2 ^ bits : Nat) : Int) = 2 ^ bits := by simp
  have hle : 2 ^ bits ≤ 2 ^ 52 := Nat.pow_le_pow_right Nat.zero_lt_two hbits
  by_cases hpad : before ++ after = []
  · rw [read_eq_exact.mpr (readInteger_unpadded hpad h hlow hhigh)]
    rfl
  · obtain ⟨cause, hcause⟩ := exists_error_of_padded hbefore hafter hpad bits s
    obtain ⟨k, hk, hkept⟩ := exists_nearest_kept before after hbefore hafter h (by omega) hcause
    have hsame : k = z.natAbs :=
      hk.eq_of_represents (BinaryFormat.represents_of_lt (show z.natAbs < 2 * 2 ^ 52 by omega))
    rw [hkept]
    by_cases hneg : z < 0
    · rw [if_pos hneg]
      exact congrArg some (by omega)
    · rw [if_neg hneg, if_neg (by omega)]
      exact congrArg some (by omega)

theorem kept_padded_long (h : Spelling z s) (hlow : -2 ^ 63 ≤ z) (hhigh : z < 2 ^ 63)
    (hpad : before ++ after ≠ []) : ∃ k, binary64.NearestTo z.natAbs k ∧
      (read 63 (before ++ s ++ after)).kept = some (min (z.sign * k) (2 ^ 63 - 1)) := by
  have hpower : binary64.Represents (2 ^ 63) := ⟨1, 63, by decide, (Nat.one_mul _).symm⟩
  obtain ⟨cause, hcause⟩ := exists_error_of_padded hbefore hafter hpad 63 s
  obtain ⟨k, hk, hkept⟩ := exists_nearest_kept before after hbefore hafter h (by omega) hcause
  have hle : k ≤ 2 ^ 63 := hk.ge hpower (by omega)
  refine ⟨k, hk, ?_⟩
  rw [hkept]
  rcases Int.lt_trichotomy z 0 with hneg | rfl | hpos
  · rw [if_pos hneg, Int.sign_eq_neg_one_of_neg hneg]
    exact congrArg some (by omega)
  · have hzero : k = 0 := hk.eq_of_represents (BinaryFormat.represents_of_lt (by decide))
    rw [hzero]
    rfl
  · rw [if_neg (by omega), if_neg (by omega), Int.sign_eq_one_of_pos hpos]
    exact congrArg some (by omega)

end WholeNumber

end Padded

/-- A whole number in a field may have any sign, zeros and blanks around its digits. Without
blanks it is kept as it is. With blanks, a long is rounded to a double, and there is a warning. -/
theorem coerce_spelling {before after s : List Char} (hbefore : ∀ c ∈ before, isBlank c = true)
    (hafter : ∀ c ∈ after, isBlank c = true) :
    let octets := some (Utf8.encode (before ++ s ++ after))
    (∀ n : Int32, Spelling n.toInt s → (coerce .int octets).result = .ok (.int n) ∧
      ((coerce .int octets).warnings = [] ↔ before ++ after = [])) ∧
    ∀ n : Int64, Spelling n.toInt s → ∃ v : Int64, (coerce .long octets).result = .ok (.long v) ∧
      (v = n ↔ before ++ after = [] ∨ binary64.Represents n.toInt.natAbs ∨ n = Int64.maxValue) ∧
      (before ++ after ≠ [] → ∃ k, binary64.NearestTo n.toInt.natAbs k ∧
        v.toInt = min (n.toInt.sign * k) (2 ^ 63 - 1)) ∧
      ((coerce .long octets).warnings = [] ↔ before ++ after = []) := by
  intro octets
  have hdecode : Utf8.decode (Utf8.encode (before ++ s ++ after)) = before ++ s ++ after :=
    Utf8.decode_encode _
  refine ⟨fun n h => ⟨?_, ?_⟩, fun n h => ?_⟩
  · have hresult : (coerce .int octets).result = _ := Coerced.result_integer ..
    have hkept := WholeNumber.kept_padded_short hbefore hafter (by decide) h n.le_toInt n.toInt_lt
    rw [hresult, hdecode, hkept, Option.elim_some, Int32.ofInt_toInt]
  · exact warnings_padded hbefore hafter .int _ h n.le_toInt n.toInt_lt
  · have hresult : (coerce .long octets).result = _ := Coerced.result_integer ..
    have hwarnings : (coerce .long octets).warnings = [] ↔ before ++ after = [] :=
      warnings_padded hbefore hafter .long _ h n.le_toInt n.toInt_lt
    rw [hdecode] at hresult
    by_cases hpad : before ++ after = []
    · have hexact := readInteger_unpadded hpad h n.le_toInt n.toInt_lt
      refine ⟨n, ?_, iff_of_true rfl (.inl hpad), fun h => absurd hpad h, hwarnings⟩
      rw [hresult, WholeNumber.read_eq_exact.mpr hexact, WholeNumber.kept, Option.elim_some,
        Int64.ofInt_toInt]
    · obtain ⟨k, hk, hkept⟩ :=
        WholeNumber.kept_padded_long hbefore hafter h n.le_toInt n.toInt_lt hpad
      obtain ⟨hlow, hhigh⟩ := WholeNumber.kept_read_bounds hkept
      have hword := Int64.toInt_ofInt_of_le hlow hhigh
      refine ⟨_, by rw [hresult, hkept]; rfl, ?_, fun _ => ⟨k, hk, hword⟩, hwarnings⟩
      rw [or_iff_right hpad, ← Int64.toInt_inj, hword, ← Int64.toInt_inj, Int64.toInt_maxValue]
      exact capped_eq_iff n.le_toInt n.toInt_lt hk

theorem coerce_spelling_even : isBlank ' ' = true ∧ isBlank '\t' = true ∧
    Spelling (-9007199254740994) "-0009007199254740994".toList ∧
    (coerce .long (some (Utf8.encodeText " -0009007199254740994\t"))).result =
      .ok (.long (-9007199254740994)) := by
  have hspelling : Spelling (-9007199254740994) "-0009007199254740994".toList :=
    (Spelling.of_readInteger (show readInteger 63 _ = _ by rfl)).1
  have hvalue : (-9007199254740994 : Int64).toInt = -9007199254740994 := by decide
  have hdouble : binary64.Represents 9007199254740994 := ⟨4503599627370497, 1, by decide, by decide⟩
  have hbefore : ∀ c ∈ [' '], isBlank c = true := List.all_eq_true.mp (by decide)
  have hafter : ∀ c ∈ ['\t'], isBlank c = true := List.all_eq_true.mp (by decide)
  obtain ⟨v, hresult, hsame, -⟩ :=
    (coerce_spelling hbefore hafter).2 (-9007199254740994) (hvalue ▸ hspelling)
  rw [hvalue] at hsame
  rw [hsame.mpr (.inr (.inl hdouble))] at hresult
  exact ⟨by decide, by decide, hspelling, hresult⟩

/-- The first long that is no double, behind a blank. -/
theorem coerce_long_rounded : Spelling 9007199254740993 "9007199254740993".toList ∧
    ∃ v : Int64, (coerce .long (some (Utf8.encodeText " 9007199254740993"))).result =
      .ok (.long v) ∧ v.toInt = 9007199254740993 - 1 := by
  refine ⟨(Spelling.of_readInteger (show readInteger 63 _ = _ by rfl)).1,
    Int64.ofInt 9007199254740992, ?_, by decide⟩
  have hkept : (WholeNumber.read 63 (Utf8.decode (Utf8.encodeText " 9007199254740993"))).kept =
      some 9007199254740992 := by
    decide +kernel
  have hresult := Coerced.result_integer .long 63 (fun n => .long (Int64.ofInt n))
    (Utf8.encodeText " 9007199254740993")
  rw [hkept] at hresult
  exact hresult

end RangeSort
