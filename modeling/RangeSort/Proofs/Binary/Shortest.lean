import RangeSort.Binary.Shortest
import RangeSort.Proofs.Binary.Rounding

/-! Shortest decimals round to the magnitude that they were found for. -/

namespace RangeSort.BinaryFormat

variable {f : BinaryFormat} {m num den c : Nat} {e : Int}

theorem roundsTo_mul {k : Nat} (hk : 0 < k) :
    f.roundsTo m (num * k) (den * k) = f.roundsTo m num den := by
  have hnum : 2 * (num * k) * 2 ^ f.scale = 2 * num * 2 ^ f.scale * k := by
    rw [← Nat.mul_assoc, Nat.mul_right_comm]
  rw [Bool.eq_iff_iff, roundsTo_iff, roundsTo_iff, hnum, ← Nat.mul_assoc, ← Nat.mul_assoc,
    leIfEven_mul_iff hk, leIfEven_mul_iff hk]

/-- Rounding depends on the number alone. -/
theorem roundsTo_congr {num' den' : Nat} (hden : 0 < den) (hden' : 0 < den')
    (h : num * den' = num' * den) : f.roundsTo m num den = f.roundsTo m num' den' := by
  calc f.roundsTo m num den = f.roundsTo m (num * den') (den * den') := (roundsTo_mul hden').symm
    _ = f.roundsTo m (num' * den) (den' * den) := by rw [h, Nat.mul_comm den]
    _ = f.roundsTo m num' den' := roundsTo_mul hden

theorem ten_pow_pos (n : Nat) : 0 < 10 ^ n :=
  Nat.pow_pos (by decide)

theorem decimalRoundsTo_eq (f : BinaryFormat) (m c : Nat) (e : Int) :
    f.decimalRoundsTo m c e = f.roundsTo m (c * 10 ^ e.toNat) (10 ^ (-e).toNat) := by
  cases e with
  | ofNat e =>
    have : (-(Int.ofNat e)).toNat = 0 := by simp
    rw [this]
    rfl
  | negSucc e =>
    have : (Int.negSucc e).toNat = 0 := rfl
    rw [this, Nat.pow_zero, Nat.mul_one]
    rfl

theorem decimalRoundsTo_mul_pow (f : BinaryFormat) (m c k : Nat) (e : Int) :
    f.decimalRoundsTo m (c * 10 ^ k) e = f.decimalRoundsTo m c (e + k) := by
  rw [decimalRoundsTo_eq, decimalRoundsTo_eq]
  apply roundsTo_congr (ten_pow_pos _) (ten_pow_pos _)
  rw [Nat.mul_assoc, Nat.mul_assoc, Nat.mul_assoc, ← Nat.pow_add, ← Nat.pow_add, ← Nat.pow_add]
  congr 2
  omega

theorem decimalRoundsTo_exact (f : BinaryFormat) {m : Nat} (hm : m ≠ 0) :
    f.decimalRoundsTo m (f.units m * 5 ^ f.scale) (-(f.scale : Int)) = true := by
  have hpow : 5 ^ f.scale * 2 ^ f.scale = 10 ^ f.scale := by rw [← Nat.mul_pow]
  have hexact : 2 * (f.units m * 5 ^ f.scale * 1) * 2 ^ f.scale = 2 * f.units m * 10 ^ f.scale := by
    rw [Nat.mul_one, ← hpow]
    ac_rfl
  have hbelow : f.units (m - 1) < f.units m := f.units_strictMono (by omega)
  have habove : f.units m < f.units (m + 1) := f.units_strictMono (Nat.lt_succ_self m)
  rw [decimalRoundsTo_eq, show (-(f.scale : Int)).toNat = 0 by omega,
    show (- -(f.scale : Int)).toNat = f.scale by omega, Nat.pow_zero, roundsTo_iff, hexact]
  constructor
  · exact .inr (.inl (Nat.mul_lt_mul_of_pos_right (by omega) (ten_pow_pos _)))
  · exact .inr (.inl (Nat.mul_lt_mul_of_pos_right (by omega) (ten_pow_pos _)))

theorem decimalRoundsTo_of_onGrid {tie : Tie} {d : Decimal} (h : f.onGrid tie m e = some d) :
    f.decimalRoundsTo m d.coefficient d.exponent = true := by
  obtain ⟨c, hc, rfl⟩ := Option.map_eq_some_iff.mp h
  have := List.find?_some hc
  exact this

/-- Whichever way a shortest decimal was found, it rounds to its magnitude. -/
theorem decimalRoundsTo_shortest (f : BinaryFormat) (tie : Tie) (hm : m ≠ 0) :
    f.decimalRoundsTo m (f.shortest tie m).coefficient (f.shortest tie m).exponent = true := by
  rw [shortest]
  generalize (List.range (f.fractionBits / 3 + 2)).map
    (fun n : Nat => f.leadingExponent m - (n : Int)) = grids
  cases hfound : grids.findSome? (f.onGrid tie m) with
  | none => exact f.decimalRoundsTo_exact hm
  | some d =>
    obtain ⟨e, -, he⟩ := List.exists_of_findSome?_eq_some hfound
    exact decimalRoundsTo_of_onGrid he

/-- The range of a format is within the exponents that are not cut off. -/
structure Regular (f : BinaryFormat) : Prop where
  infinity : f.fractionBits + 2 ^ f.exponentBits ≤ 4 * 2 ^ f.exponentBits
  scale : f.scale + 2 ≤ 4 * 2 ^ f.exponentBits
  reach : 4 * 2 ^ f.exponentBits < 65536

theorem regular_binary32 : binary32.Regular := ⟨by decide, by decide, by decide⟩

theorem regular_binary64 : binary64.Regular := ⟨by decide, by decide, by decide⟩

theorem units_infinity_le (f : BinaryFormat) :
    f.units f.infinity ≤ 2 ^ (f.fractionBits + 2 ^ f.exponentBits) := by
  have h := units_eq f (2 ^ f.exponentBits - 1) f.hidden_pos
  rw [Nat.add_zero, Nat.mul_comm, Nat.add_zero] at h
  rw [infinity, h]
  split
  · exact Nat.zero_le _
  · rw [hidden, ← Nat.pow_add]
    exact Nat.pow_le_pow_right (by decide) (by omega)

section Bounds

variable (hm : m ≠ 0) (hinfinity : m < f.infinity) (h : f.decimalRoundsTo m c e = true)

include hinfinity h in
/-- A decimal of a finite magnitude is below the next power of two. -/
theorem decimal_le :
    c * 10 ^ e.toNat * 2 ^ f.scale ≤
      2 ^ (f.fractionBits + 2 ^ f.exponentBits) * 10 ^ (-e).toNat := by
  rw [decimalRoundsTo_eq, roundsTo_iff] at h
  have hhigh := h.2.resolve_left (Nat.ne_of_lt hinfinity)
  have h1 : f.units m ≤ f.units f.infinity := f.units_strictMono.monotone (Nat.le_of_lt hinfinity)
  have h2 : f.units (m + 1) ≤ f.units f.infinity := f.units_strictMono.monotone hinfinity
  have h3 := f.units_infinity_le
  have h4 : (f.units m + f.units (m + 1)) * 10 ^ (-e).toNat ≤
      2 * 2 ^ (f.fractionBits + 2 ^ f.exponentBits) * 10 ^ (-e).toNat :=
    Nat.mul_le_mul_right _ (by omega)
  rw [Nat.mul_assoc 2] at h4 hhigh
  rcases hhigh with hlt | ⟨-, heq⟩ <;> omega

include hm h in
/-- A decimal of a magnitude other than zero is at least half the least subnormal number. -/
theorem le_decimal : 10 ^ (-e).toNat ≤ 2 * (c * 10 ^ e.toNat * 2 ^ f.scale) := by
  rw [decimalRoundsTo_eq, roundsTo_iff] at h
  have hlow := h.1.resolve_left hm
  have h1 : 0 < f.units m := units_pos (Nat.pos_of_ne_zero hm)
  have h2 : 1 * 10 ^ (-e).toNat ≤ (f.units (m - 1) + f.units m) * 10 ^ (-e).toNat :=
    Nat.mul_le_mul_right _ (by omega)
  rw [Nat.mul_assoc 2] at hlow
  rcases hlow with hlt | ⟨-, heq⟩ <;> omega

include hm h in
theorem coefficient_ne_zero : c ≠ 0 := by
  rintro rfl
  have := le_decimal hm h
  have := ten_pow_pos (-e).toNat
  omega

end Bounds

theorem two_pow_le_ten_pow {a b : Nat} (h : a ≤ b) : 2 ^ a ≤ 10 ^ b :=
  Nat.le_trans (Nat.pow_le_pow_right (by decide) h) (Nat.pow_le_pow_left (by decide) b)

theorem nearestDecimal_eq (hf : f.Regular) (hm : m ≠ 0) (hinfinity : m < f.infinity)
    (h : f.decimalRoundsTo m c e = true) : f.nearestDecimal c e = m := by
  have hc := coefficient_ne_zero hm h
  have hlow := le_decimal hm h
  have hhigh := decimal_le hinfinity h
  have hpos : (0 : Int) < 2 ^ f.exponentBits := Int.pow_pos (by decide)
  have hnotAbove : ¬ (4 * 2 ^ f.exponentBits : Int) < e := by
    intro hlt
    obtain ⟨n, rfl⟩ := Int.eq_ofNat_of_zero_le (show 0 ≤ e by omega)
    have hn : 4 * 2 ^ f.exponentBits < n := by exact_mod_cast hlt
    have h1 : 2 ^ (f.fractionBits + 2 ^ f.exponentBits) < 2 ^ n :=
      Nat.pow_lt_pow_right (by decide) (Nat.lt_of_le_of_lt hf.infinity hn)
    have h2 : 10 ^ n ≤ c * 10 ^ n * 2 ^ f.scale := by
      calc 10 ^ n ≤ c * 10 ^ n := Nat.le_mul_of_pos_left _ (Nat.pos_of_ne_zero hc)
        _ ≤ c * 10 ^ n * 2 ^ f.scale := Nat.le_mul_of_pos_right _ (Nat.pow_pos (by decide))
    have h3 := two_pow_le_ten_pow (Nat.le_refl n)
    rw [Int.toNat_natCast, show (-(n : Int)).toNat = 0 by omega, Nat.pow_zero, Nat.mul_one] at hhigh
    omega
  have hnotBelow : ¬ e < -((4 * 2 ^ f.exponentBits : Int) + c.log2) := by
    intro hlt
    obtain ⟨n, hn⟩ := Int.eq_ofNat_of_zero_le (show 0 ≤ -e by omega)
    have hlarge : 4 * 2 ^ f.exponentBits + c.log2 < n := by
      have : (4 * 2 ^ f.exponentBits : Int) + c.log2 < n := by omega
      exact_mod_cast this
    have h1 : c < 2 ^ (c.log2 + 1) := Nat.lt_log2_self
    have h2 : 2 * (c * 2 ^ f.scale) < 2 ^ (f.scale + 2 + c.log2) := by
      calc 2 * (c * 2 ^ f.scale) < 2 * (2 ^ (c.log2 + 1) * 2 ^ f.scale) := by
            have := Nat.mul_lt_mul_of_pos_right h1 (Nat.pow_pos (n := f.scale) (Nat.zero_lt_two))
            omega
        _ = 2 ^ (f.scale + 2 + c.log2) := by
            rw [← Nat.pow_add, ← Nat.pow_succ']
            congr 1
            omega
    have h3 : 2 ^ (f.scale + 2 + c.log2) ≤ 10 ^ n := by
      have := hf.scale
      exact two_pow_le_ten_pow (by omega)
    rw [hn, Int.toNat_natCast, show e.toNat = 0 by omega, Nat.pow_zero, Nat.mul_one] at hlow
    omega
  simp only [nearestDecimal, if_neg hc, if_neg hnotAbove, if_neg hnotBelow]
  cases e with
  | ofNat e => exact nearest_eq hinfinity Nat.one_pos h
  | negSucc e => exact nearest_eq hinfinity (ten_pow_pos _) h

end RangeSort.BinaryFormat
