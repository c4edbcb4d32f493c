import RangeSort.Proofs.Binary.Rounding

/-! Rounding gives the pattern of a number. -/

namespace RangeSort.BinaryFormat

variable {f : BinaryFormat}

theorem nearest_le_infinity (f : BinaryFormat) (num den : Nat) : f.nearest num den ≤ f.infinity :=
  Nat.min_le_left _ _

theorem nearestDecimal_le (f : BinaryFormat) (coefficient : Nat) (exponent : Int) :
    f.nearestDecimal coefficient exponent ≤ f.infinity := by
  unfold nearestDecimal
  extract_lets reach
  by_cases hc : coefficient = 0
  · rw [if_pos hc]
    exact Nat.zero_le _
  · by_cases hhigh : reach < exponent
    · rw [if_neg hc, if_pos hhigh]
    · by_cases hlow : exponent < -(reach + coefficient.log2 : Int)
      · rw [if_neg hc, if_neg hhigh, if_pos hlow]
        exact Nat.zero_le _
      · rw [if_neg hc, if_neg hhigh, if_neg hlow]
        cases exponent with
        | ofNat e => exact f.nearest_le_infinity _ _
        | negSucc e => exact f.nearest_le_infinity _ _

theorem magnitude_withSign {magnitude : Nat} (h : magnitude ≤ f.infinity) (negative : Bool) :
    f.magnitude (f.withSign negative magnitude) = magnitude := by
  have hlt : magnitude < f.signBit := Nat.lt_of_le_of_lt h f.infinity_lt
  cases negative with
  | false => exact Nat.mod_eq_of_lt hlt
  | true =>
    show (f.signBit + magnitude) % f.signBit = magnitude
    rw [Nat.add_mod_left, Nat.mod_eq_of_lt hlt]

theorem isNegative_withSign {magnitude : Nat} (h : magnitude ≤ f.infinity) (negative : Bool) :
    f.isNegative (f.withSign negative magnitude) = negative := by
  have hlt : magnitude < f.signBit := Nat.lt_of_le_of_lt h f.infinity_lt
  cases negative with
  | false => exact decide_eq_false (Nat.not_le.mpr hlt)
  | true => exact decide_eq_true (Nat.le_add_right _ _)

theorem isNan_withSign {magnitude : Nat} (h : magnitude ≤ f.infinity) (negative : Bool) :
    f.isNan (f.withSign negative magnitude) = false := by
  rw [isNan, magnitude_withSign h, decide_eq_false_iff_not]
  exact Nat.not_lt.mpr h

theorem withSign_lt {magnitude : Nat} (h : magnitude ≤ f.infinity) (negative : Bool) :
    f.withSign negative magnitude < 2 * f.signBit := by
  have hlt : magnitude < f.signBit := Nat.lt_of_le_of_lt h f.infinity_lt
  cases negative with
  | false => exact Nat.lt_of_lt_of_le hlt (Nat.le_mul_of_pos_left _ Nat.zero_lt_two)
  | true =>
    show f.signBit + magnitude < 2 * f.signBit
    omega

/-- A pattern of a number, or the quiet one. -/
def Canonical (f : BinaryFormat) (bits : Nat) : Prop :=
  bits < 2 * f.signBit ∧ (f.isNan bits = true → bits = f.quietNan)

theorem infinity_add_hidden (f : BinaryFormat) : f.infinity + f.hidden = f.signBit := by
  have hpos : 0 < 2 ^ f.exponentBits := Nat.pow_pos Nat.zero_lt_two
  rw [infinity, signBit, Nat.pow_add, Nat.mul_comm (2 ^ f.fractionBits), Nat.sub_mul, Nat.one_mul]
  exact Nat.sub_add_cancel (Nat.le_mul_of_pos_left _ hpos)

theorem canonical_quietNan (f : BinaryFormat) : f.Canonical f.quietNan := by
  have hhalf : f.hidden / 2 < f.hidden := Nat.div_lt_self f.hidden_pos Nat.one_lt_two
  have hsum := f.infinity_add_hidden
  exact ⟨by rw [quietNan]; omega, fun _ => rfl⟩

theorem canonical_withSign {magnitude : Nat} (h : magnitude ≤ f.infinity) (negative : Bool) :
    f.Canonical (f.withSign negative magnitude) := by
  refine ⟨withSign_lt h negative, fun hnan => ?_⟩
  rw [isNan_withSign h] at hnan
  cases hnan

end RangeSort.BinaryFormat
