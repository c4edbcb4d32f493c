import Mathlib.Data.List.TakeWhile
import RangeSort.Binary.Layout
import RangeSort.Proofs.Binary.Shortest
import RangeSort.Proofs.Decimal.Numeral

/-! The texts of finite floating-point numbers are numerals, and are read as the numbers they
were written for. -/

namespace RangeSort

namespace FloatLayout

theorem exists_significant (digits : List Char) :
    ∃ k, digits = significant digits ++ List.replicate k '0' := by
  have hsplit : digits.reverse.takeWhile (· == '0') ++ digits.reverse.dropWhile (· == '0') =
      digits.reverse := List.takeWhile_append_dropWhile
  have hzeros : digits.reverse.takeWhile (· == '0') =
      List.replicate (digits.reverse.takeWhile (· == '0')).length '0' := by
    rw [List.eq_replicate_iff]
    exact ⟨rfl, fun c hc => by simpa using List.mem_takeWhile_imp hc⟩
  refine ⟨(digits.reverse.takeWhile (· == '0')).length, ?_⟩
  rw [significant, ← List.reverse_replicate, ← hzeros, ← List.reverse_append, hsplit,
    List.reverse_reverse]

theorem exists_positional {digits : List Char} (hdigits : ∀ c ∈ digits, c.isDigit = true)
    (hne : digits ≠ []) (leading : Int) :
    ∃ t : DecimalText, t.chars = positionalChars true digits leading ∧
      ∃ j : Nat, t.coefficient = Nat.ofDigitChars 10 digits 0 * 10 ^ j ∧
        t.power + j = leading + 1 - digits.length := by
  have hzeros (n : Nat) : ∀ c ∈ List.replicate n '0', c.isDigit = true := by
    intro c hc
    rw [List.eq_of_mem_replicate hc]
    rfl
  cases leading with
  | negSucc e =>
    refine ⟨⟨['0'], List.replicate e '0' ++ digits, none, by simp, by simp, ?_, nofun,
      .inl (by simp [hne])⟩, ?_, 0, ?_, ?_⟩
    · intro c hc
      exact (List.mem_append.mp hc).elim (hzeros e c) (hdigits c)
    · simp [DecimalText.chars, numeralChars, positionalChars, hne]
    · simp [DecimalText.coefficient, Nat.ofDigitChars_cons, Nat.ofDigitChars_append]
    · simp only [DecimalText.power, Option.getD_none, List.length_append, List.length_replicate,
        Int.negSucc_eq]
      omega
  | ofNat e =>
    by_cases hlen : digits.length ≤ e + 1
    · refine ⟨⟨digits ++ List.replicate (e + 1 - digits.length) '0', ['0'], none, ?_, by simp [hne],
        by simp, nofun, .inl (by simp)⟩, ?_, e + 1 - digits.length + 1, ?_, ?_⟩
      · intro c hc
        exact (List.mem_append.mp hc).elim (hdigits c) (hzeros _ c)
      · simp [DecimalText.chars, numeralChars, positionalChars, List.take_of_length_le hlen,
          List.drop_eq_nil_of_le hlen]
      · simp only [DecimalText.coefficient, Nat.ofDigitChars_append,
          Nat.ofDigitChars_replicate_zero, Nat.ofDigitChars_cons, Nat.ofDigitChars_nil, Nat.pow_succ]
        show 10 * (10 ^ _ * _) + 0 = _
        rw [Nat.add_zero, Nat.mul_left_comm, Nat.mul_comm]
        ac_rfl
      · simp only [DecimalText.power, Option.getD_none, List.length_singleton, Int.ofNat_eq_natCast]
        omega
    · have hdrop : digits.drop (e + 1) ≠ [] := by
        rw [ne_eq, List.drop_eq_nil_iff]
        exact hlen
      have htake : digits.take (e + 1) ≠ [] := by
        rw [ne_eq, List.take_eq_nil_iff]
        simp [hne]
      refine ⟨⟨digits.take (e + 1), digits.drop (e + 1), none, ?_, htake, ?_, nofun, .inl hdrop⟩,
        ?_, 0, ?_, ?_⟩
      · exact fun c hc => hdigits c (List.mem_of_mem_take hc)
      · exact fun c hc => hdigits c (List.mem_of_mem_drop hc)
      · simp [DecimalText.chars, numeralChars, positionalChars, hlen,
          show e + 1 - digits.length = 0 by omega]
      · rw [DecimalText.coefficient, List.take_append_drop, Nat.pow_zero, Nat.mul_one]
      · simp only [DecimalText.power, Option.getD_none, List.length_drop, Int.ofNat_eq_natCast]
        omega

theorem exists_exponent {digits : List Char} (hdigits : ∀ c ∈ digits, c.isDigit = true)
    (hne : digits ≠ []) {leading : Int} (hleading : leading.natAbs < 65536) :
    ∃ t : DecimalText, t.chars = exponentChars digits leading ∧
      t.coefficient = Nat.ofDigitChars 10 digits 0 ∧
      t.power = leading + 1 - digits.length := by
  obtain ⟨d, rest, rfl⟩ := List.exists_cons_of_ne_nil hne
  refine ⟨⟨[d], rest, some leading, ?_, by simp, ?_, by simpa using hleading, .inr rfl⟩, ?_, rfl, ?_⟩
  · intro c hc
    cases List.mem_singleton.mp hc
    exact hdigits d List.mem_cons_self
  · exact fun c hc => hdigits c (List.mem_cons_of_mem d hc)
  · cases rest <;> rfl
  · simp only [DecimalText.power, Option.getD_some, List.length_cons]
    omega

theorem lt_ten_pow_length (c : Nat) : c < 10 ^ (natChars c).length :=
  (Nat.length_toDigits_le_iff (by decide) Nat.length_toDigits_pos).mp (Nat.le_refl _)

theorem ten_pow_length_le {c : Nat} (hc : c ≠ 0) : 10 ^ ((natChars c).length - 1) ≤ c := by
  by_cases hlen : (natChars c).length - 1 = 0
  · rw [hlen]
    exact Nat.pos_of_ne_zero hc
  · have := Nat.length_toDigits_le_iff (n := c) (by decide : 1 < 10) (Nat.pos_of_ne_zero hlen)
    have hpos : 0 < (natChars c).length := Nat.length_toDigits_pos
    rw [← Nat.not_lt, ← this]
    show ¬ (natChars c).length ≤ (natChars c).length - 1
    omega

/-- The leading digit of a decimal is where the format has its numbers. -/
theorem natAbs_leading_lt {f : BinaryFormat} (hf : f.Regular) {m c : Nat} {e : Int} (hm : m ≠ 0)
    (hinfinity : m < f.infinity) (h : f.decimalRoundsTo m c e = true) :
    (e + (natChars c).length - 1).natAbs < 65536 := by
  have hc := BinaryFormat.coefficient_ne_zero hm h
  have hpos : 0 < (natChars c).length := Nat.length_toDigits_pos
  have hupper : 10 ^ ((natChars c).length - 1 + e.toNat) ≤
      10 ^ (f.fractionBits + 2 ^ f.exponentBits + (-e).toNat) := by
    calc 10 ^ ((natChars c).length - 1 + e.toNat)
        = 10 ^ ((natChars c).length - 1) * 10 ^ e.toNat := Nat.pow_add _ _ _
      _ ≤ c * 10 ^ e.toNat := Nat.mul_le_mul_right _ (ten_pow_length_le hc)
      _ ≤ c * 10 ^ e.toNat * 2 ^ f.scale := Nat.le_mul_of_pos_right _ (Nat.pow_pos (by decide))
      _ ≤ 2 ^ (f.fractionBits + 2 ^ f.exponentBits) * 10 ^ (-e).toNat :=
        BinaryFormat.decimal_le hinfinity h
      _ ≤ 10 ^ (f.fractionBits + 2 ^ f.exponentBits) * 10 ^ (-e).toNat :=
        Nat.mul_le_mul_right _ (BinaryFormat.two_pow_le_ten_pow (Nat.le_refl _))
      _ = 10 ^ (f.fractionBits + 2 ^ f.exponentBits + (-e).toNat) := (Nat.pow_add _ _ _).symm
  have hlower : 10 ^ (-e).toNat ≤ 10 ^ (1 + ((natChars c).length + e.toNat + f.scale)) := by
    calc 10 ^ (-e).toNat ≤ 2 * (c * 10 ^ e.toNat * 2 ^ f.scale) := BinaryFormat.le_decimal hm h
      _ ≤ 10 * (10 ^ (natChars c).length * 10 ^ e.toNat * 10 ^ f.scale) :=
        Nat.mul_le_mul (by decide) (Nat.mul_le_mul
          (Nat.mul_le_mul_right _ (Nat.le_of_lt (lt_ten_pow_length c)))
          (BinaryFormat.two_pow_le_ten_pow (Nat.le_refl _)))
      _ = 10 ^ (1 + ((natChars c).length + e.toNat + f.scale)) := by
        rw [Nat.pow_add, Nat.pow_add, Nat.pow_add, Nat.pow_one]
  have h1 := (Nat.pow_le_pow_iff_right (by decide)).mp hupper
  have h2 := (Nat.pow_le_pow_iff_right (by decide)).mp hlower
  have h3 := hf.infinity
  have h4 := hf.scale
  have h5 := hf.reach
  omega

/-- A finite number is written as a numeral that is read as the same magnitude. -/
theorem exists_magnitudeChars (l : FloatLayout) (hpoint : l.keepPoint = true) {f : BinaryFormat}
    (hf : f.Regular) {m : Nat} (hinfinity : m < f.infinity) :
    ∃ t : DecimalText, l.magnitudeChars f m = t.chars ∧
      f.nearestDecimal t.coefficient t.power = m := by
  by_cases hm : m = 0
  · subst hm
    refine ⟨⟨['0'], ['0'], none, by simp, by simp, by simp, nofun, .inl (by simp)⟩, ?_, ?_⟩
    · rw [magnitudeChars, if_pos rfl, hpoint]
      rfl
    · rfl
  have hrounds := f.decimalRoundsTo_shortest l.tie hm
  rw [magnitudeChars, if_neg hm, hpoint]
  generalize f.shortest l.tie m = d at hrounds
  dsimp only
  have hleading := natAbs_leading_lt hf hm hinfinity hrounds
  obtain ⟨k, hk⟩ := exists_significant (natChars d.coefficient)
  have hlength : (natChars d.coefficient).length =
      (significant (natChars d.coefficient)).length + k := by
    conv_lhs => rw [hk]
    rw [List.length_append, List.length_replicate]
  have hvalue : d.coefficient =
      Nat.ofDigitChars 10 (significant (natChars d.coefficient)) 0 * 10 ^ k := by
    conv_lhs => rw [← ofDigitChars_natChars d.coefficient, hk]
    rw [Nat.ofDigitChars_append, Nat.ofDigitChars_replicate_zero, Nat.mul_comm]
  have hdigits : ∀ c ∈ significant (natChars d.coefficient), c.isDigit = true := by
    intro c hc
    have hmem := List.mem_append_left (List.replicate k '0') hc
    rw [← hk] at hmem
    exact isDigit_natChars hmem
  have hne : significant (natChars d.coefficient) ≠ [] := by
    intro hnil
    rw [hnil, Nat.ofDigitChars_nil, Nat.zero_mul] at hvalue
    exact BinaryFormat.coefficient_ne_zero hm hrounds hvalue
  -- Whatever zeros the text keeps or drops, it spells the same number.
  have hread {t : DecimalText} {j : Nat}
      (hcoefficient : t.coefficient =
        Nat.ofDigitChars 10 (significant (natChars d.coefficient)) 0 * 10 ^ j)
      (hpower : t.power + j = d.exponent + (natChars d.coefficient).length - 1 + 1 -
        (significant (natChars d.coefficient)).length) :
      f.nearestDecimal t.coefficient t.power = m := by
    apply BinaryFormat.nearestDecimal_eq hf hm hinfinity
    rw [hvalue, f.decimalRoundsTo_mul_pow] at hrounds
    rw [hcoefficient, f.decimalRoundsTo_mul_pow]
    convert hrounds using 2
    omega
  split
  · obtain ⟨t, ht, j, hcoefficient, hpower⟩ := exists_positional hdigits hne
      (d.exponent + (natChars d.coefficient).length - 1)
    exact ⟨t, ht.symm, hread hcoefficient hpower⟩
  · obtain ⟨t, ht, hcoefficient, hpower⟩ := exists_exponent hdigits hne hleading
    refine ⟨t, ht.symm, hread (j := 0) ?_ ?_⟩
    · rw [hcoefficient, Nat.pow_zero, Nat.mul_one]
    · rw [hpower, Int.ofNat_zero, Int.add_zero]

end FloatLayout

namespace BinaryFormat

variable {f : BinaryFormat}

/-- What the text of a number can be, by its pattern. -/
inductive Spelled (f : BinaryFormat) (bits : Nat) : List Char → Prop
  | nan (h : f.isNan bits = true) : Spelled f bits "NaN".toList
  | infinite (negative : Bool) (hnan : f.isNan bits = false)
      (h : f.withSign negative f.infinity = bits) :
      Spelled f bits (if negative then '-' :: "Infinity".toList else "Infinity".toList)
  | finite (negative : Bool) (t : DecimalText) (hnan : f.isNan bits = false)
      (h : f.withSign negative (f.nearestDecimal t.coefficient t.power) = bits) :
      Spelled f bits (t.signedChars negative)

theorem withSign_magnitude {bits : Nat} (h : bits < 2 * f.signBit) :
    f.withSign (f.isNegative bits) (f.magnitude bits) = bits := by
  rw [withSign, isNegative, magnitude]
  by_cases hs : f.signBit ≤ bits
  · rw [if_pos (decide_eq_true hs), Nat.mod_eq_sub_mod hs, Nat.mod_eq_of_lt (by omega)]
    omega
  · rw [if_neg (by simpa using hs), Nat.mod_eq_of_lt (by omega)]

theorem spelled_chars (hf : f.Regular) {bits : Nat} (h : bits < 2 * f.signBit) :
    f.Spelled bits (FloatLayout.value.chars f bits) := by
  rw [FloatLayout.chars]
  have hsign := withSign_magnitude h
  by_cases hnan : f.isNan bits = true
  · rw [if_pos hnan]
    exact .nan hnan
  · have hnan' : f.isNan bits = false := by simpa using hnan
    rw [if_neg hnan]
    by_cases hinfinite : f.isInfinite bits = true
    · rw [beq_iff_eq.mp hinfinite] at hsign
      dsimp only
      rw [if_pos hinfinite]
      exact .infinite _ hnan' hsign
    · have hlt : f.magnitude bits < f.infinity := by
        simp only [isNan, decide_eq_false_iff_not, isInfinite, beq_iff_eq] at hnan' hinfinite
        omega
      obtain ⟨t, ht, hvalue⟩ := FloatLayout.value.exists_magnitudeChars rfl hf hlt
      dsimp only
      rw [if_neg hinfinite, ht]
      rw [← hvalue] at hsign
      exact .finite _ t hnan' hsign

end BinaryFormat

end RangeSort
