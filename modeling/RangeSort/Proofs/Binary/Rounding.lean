import Mathlib.Order.Monotone.Basic
import RangeSort.Binary.Rounding

/-! Rounding finds the magnitude whose interval holds the number. -/

namespace RangeSort.BinaryFormat

variable {f : BinaryFormat}

theorem hidden_pos (f : BinaryFormat) : 0 < f.hidden :=
  Nat.pow_pos (by decide)

theorem units_eq (f : BinaryFormat) (exponent : Nat) {fraction : Nat} (h : fraction < f.hidden) :
    f.units (f.hidden * exponent + fraction) =
      if exponent = 0 then fraction else (f.hidden + fraction) * 2 ^ (exponent - 1) := by
  have hdiv : (f.hidden * exponent + fraction) / f.hidden = exponent := by
    rw [Nat.mul_add_div f.hidden_pos, Nat.div_eq_of_lt h, Nat.add_zero]
  have hmod : (f.hidden * exponent + fraction) % f.hidden = fraction := by
    rw [Nat.mul_add_mod, Nat.mod_eq_of_lt h]
  simp only [units, hdiv, hmod]

/-- Values grow with their magnitudes, within a binade and from one to the next. -/
theorem units_strictMono (f : BinaryFormat) : StrictMono f.units := by
  apply strictMono_nat_of_lt_succ
  intro m
  obtain ⟨e, r, hr, rfl⟩ : ∃ e r, r < f.hidden ∧ m = f.hidden * e + r :=
    ⟨m / f.hidden, m % f.hidden, Nat.mod_lt _ f.hidden_pos, (Nat.div_add_mod m f.hidden).symm⟩
  rw [units_eq f e hr]
  by_cases hlast : r + 1 < f.hidden
  · rw [Nat.add_assoc, units_eq f e hlast]
    split
    · omega
    · exact Nat.mul_lt_mul_of_pos_right (by omega) (Nat.pow_pos (by decide))
  · have hnext : f.hidden * e + r + 1 = f.hidden * (e + 1) + 0 := by
      rw [Nat.mul_add_one]
      omega
    rw [hnext, units_eq f (e + 1) f.hidden_pos, if_neg (Nat.succ_ne_zero e), Nat.add_sub_cancel,
      Nat.add_zero]
    cases e with
    | zero => simpa using hr
    | succ e =>
      rw [if_neg (Nat.succ_ne_zero e), Nat.add_sub_cancel, Nat.pow_succ, Nat.mul_comm (2 ^ e) 2,
        ← Nat.mul_assoc]
      exact Nat.mul_lt_mul_of_pos_right (by omega) (Nat.pow_pos (by decide))

theorem units_zero (f : BinaryFormat) : f.units 0 = 0 := by
  simp [units]

theorem units_pos {m : Nat} (h : 0 < m) : 0 < f.units m := by
  have := f.units_strictMono h
  omega

theorem lastBelow_succ (f : BinaryFormat) (den bound bits base : Nat) :
    f.lastBelow den bound (bits + 1) base = f.lastBelow den bound bits
      (if f.units (base + 2 ^ bits) * den ≤ bound then base + 2 ^ bits else base) := rfl

/-- What the bits found so far say: the value at `base` does not exceed the bound, and
the search keeps to the range above it. -/
theorem lastBelow_spec {den bound : Nat} (bits : Nat) {base : Nat}
    (hbase : f.units base * den ≤ bound) :
    f.lastBelow den bound bits base < base + 2 ^ bits ∧
      f.units (f.lastBelow den bound bits base) * den ≤ bound ∧
      (f.lastBelow den bound bits base + 1 < base + 2 ^ bits →
        bound < f.units (f.lastBelow den bound bits base + 1) * den) := by
  induction bits generalizing base with
  | zero =>
    rw [lastBelow]
    exact ⟨by omega, hbase, by omega⟩
  | succ bits ih =>
    rw [lastBelow_succ]
    have hpow : 2 ^ (bits + 1) = 2 ^ bits + 2 ^ bits := by omega
    have hpos : 0 < 2 ^ bits := Nat.pow_pos (by decide)
    by_cases hnext : f.units (base + 2 ^ bits) * den ≤ bound
    · rw [if_pos hnext]
      obtain ⟨hlt, hle, hstop⟩ := ih hnext
      exact ⟨by omega, hle, fun h => hstop (by omega)⟩
    · rw [if_neg hnext]
      obtain ⟨hlt, hle, hstop⟩ := ih hbase
      refine ⟨by omega, hle, fun h => ?_⟩
      by_cases hin : f.lastBelow den bound bits base + 1 < base + 2 ^ bits
      · exact hstop hin
      · have : f.lastBelow den bound bits base + 1 = base + 2 ^ bits := by omega
        rw [this]
        omega

/-- `a` is at most `b`, and equal only when `m` is even. -/
def LeIfEven (m a b : Nat) : Prop :=
  a < b ∨ m % 2 = 0 ∧ a = b

theorem leIfEven_mul_iff {m a b k : Nat} (hk : 0 < k) :
    LeIfEven m (a * k) (b * k) ↔ LeIfEven m a b := by
  rw [LeIfEven, LeIfEven, Nat.mul_lt_mul_right hk, Nat.mul_right_cancel_iff hk]

theorem leIfEven_iff_bool {m a b : Nat} :
    LeIfEven m a b ↔ (if m % 2 == 0 then decide (a ≤ b) else decide (a < b)) = true := by
  rw [LeIfEven]
  split <;> rename_i h <;> simp at h ⊢ <;> omega

/-- The interval of a magnitude, whose ends belong to it when the magnitude is even. -/
theorem roundsTo_iff {m num den : Nat} : f.roundsTo m num den = true ↔
    (m = 0 ∨ LeIfEven m ((f.units (m - 1) + f.units m) * den) (2 * num * 2 ^ f.scale)) ∧
      (m = f.infinity ∨
        LeIfEven m (2 * num * 2 ^ f.scale) ((f.units m + f.units (m + 1)) * den)) := by
  simp only [roundsTo, leIfEven_iff_bool, Bool.and_eq_true, Bool.or_eq_true, beq_iff_eq]

theorem infinity_lt (f : BinaryFormat) : f.infinity < 2 ^ (f.fractionBits + f.exponentBits) := by
  rw [infinity, hidden, Nat.pow_add, Nat.mul_comm (2 ^ f.fractionBits)]
  exact Nat.mul_lt_mul_of_pos_right (Nat.sub_lt (Nat.pow_pos (by decide)) Nat.one_pos) f.hidden_pos

theorem nearest_eq {m num den : Nat} (hm : m < f.infinity) (hden : 0 < den)
    (h : f.roundsTo m num den = true) : f.nearest num den = m := by
  obtain ⟨hlow, hhigh⟩ := roundsTo_iff.mp h
  have hhigh := hhigh.resolve_left (Nat.ne_of_lt hm)
  rw [Nat.mul_assoc, Nat.add_mul] at hlow hhigh
  have hbound : f.units 0 * den ≤ num * 2 ^ f.scale := by
    rw [units_zero, Nat.zero_mul]
    exact Nat.zero_le _
  obtain ⟨hlt, hle, hstop⟩ := lastBelow_spec (f.fractionBits + f.exponentBits) hbound
  have hinfinity := f.infinity_lt
  have hmono {a b : Nat} (hab : a ≤ b) : f.units a * den ≤ f.units b * den :=
    Nat.mul_le_mul_right den (f.units_strictMono.monotone hab)
  have hstep (a : Nat) : f.units a * den < f.units (a + 1) * den :=
    Nat.mul_lt_mul_of_pos_right (f.units_strictMono (Nat.lt_succ_self a)) hden
  rw [Nat.zero_add] at hlt hstop
  simp only [nearest, Nat.add_mul]
  generalize f.lastBelow den (num * 2 ^ f.scale) (f.fractionBits + f.exponentBits) 0 = below at *
  generalize num * 2 ^ f.scale = bound at *
  have hbelow : below ≤ m := by
    by_contra hlt'
    have h1 := hmono (show m + 1 ≤ below by omega)
    have h2 := hstep m
    rcases hhigh with h3 | ⟨-, h3⟩ <;> omega
  have habove : m ≤ below + 1 := by
    by_contra hlt'
    have h1 := hstop (by omega)
    have h2 := hmono (show below + 1 ≤ m - 1 by omega)
    have h3 := hmono (Nat.sub_le m 1)
    rcases hlow with h4 | h4 | ⟨-, h4⟩ <;> omega
  rcases Nat.lt_or_eq_of_le hbelow with hlt' | rfl
  · obtain rfl : m = below + 1 := by omega
    rw [Nat.add_sub_cancel] at hlow
    have hup : (if 2 * bound < f.units below * den + f.units (below + 1) * den then false
        else if f.units below * den + f.units (below + 1) * den < 2 * bound then true
        else below % 2 == 1) = true := by
      rcases hlow with h4 | h4 | ⟨h4, h5⟩
      · omega
      · rw [if_neg (by omega), if_pos h4]
      · rw [if_neg (by omega), if_neg (by omega), beq_iff_eq]
        omega
    rw [hup, if_pos rfl]
    omega
  · have hdown : (if 2 * bound < f.units below * den + f.units (below + 1) * den then false
        else if f.units below * den + f.units (below + 1) * den < 2 * bound then true
        else below % 2 == 1) = false := by
      rcases hhigh with h4 | ⟨h4, h5⟩
      · rw [if_pos h4]
      · rw [if_neg (by omega), if_neg (by omega), beq_eq_false_iff_ne]
        omega
    rw [hdown, if_neg Bool.false_ne_true]
    omega

end RangeSort.BinaryFormat
