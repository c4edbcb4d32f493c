import Mathlib.Data.Nat.Dist
import RangeSort.Proofs.Binary.Patterns

/-! Rounding of whole numbers. It keeps the order, leaves a number alone that the format holds,
and gives one that lies nearest to any other. -/

namespace RangeSort.BinaryFormat

variable {f : BinaryFormat} {m num den : Nat}

/-- The two magnitudes around a number, and the side that rounding takes. -/
theorem exists_nearest (f : BinaryFormat) (num den : Nat) :
    ∃ below, f.units below * den ≤ num * 2 ^ f.scale ∧
      (below < f.infinity → num * 2 ^ f.scale < f.units (below + 1) * den) ∧
      (f.nearest num den = min f.infinity below ∧
          2 * (num * 2 ^ f.scale) ≤ f.units below * den + f.units (below + 1) * den ∨
        f.nearest num den = min f.infinity (below + 1) ∧
          f.units below * den + f.units (below + 1) * den ≤ 2 * (num * 2 ^ f.scale)) := by
  have hzero : f.units 0 * den ≤ num * 2 ^ f.scale := by
    rw [units_zero, Nat.zero_mul]
    exact Nat.zero_le _
  obtain ⟨-, hle, hstop⟩ := lastBelow_spec (f.fractionBits + f.exponentBits) hzero
  have hinfinity := f.infinity_lt
  rw [Nat.zero_add] at hstop
  simp only [nearest, Nat.add_mul]
  generalize f.lastBelow den (num * 2 ^ f.scale) (f.fractionBits + f.exponentBits) 0 = below at *
  generalize num * 2 ^ f.scale = bound at *
  refine ⟨below, hle, fun h => hstop (by omega), ?_⟩
  by_cases hdown : 2 * bound < f.units below * den + f.units (below + 1) * den
  · rw [if_pos hdown]
    exact .inl ⟨rfl, Nat.le_of_lt hdown⟩
  · rw [if_neg hdown]
    by_cases hup : f.units below * den + f.units (below + 1) * den < 2 * bound
    · rw [if_pos hup]
      exact .inr ⟨rfl, Nat.le_of_lt hup⟩
    · rw [if_neg hup]
      cases below % 2 == 1 with
      | true => exact .inr ⟨rfl, by omega⟩
      | false => exact .inl ⟨rfl, by omega⟩

theorem units_mul_le (f : BinaryFormat) (den : Nat) {a b : Nat} (h : a ≤ b) :
    f.units a * den ≤ f.units b * den :=
  Nat.mul_le_mul_right den (f.units_strictMono.monotone h)

theorem le_nearest (hm : m ≤ f.infinity) (h : f.units m * den ≤ num * 2 ^ f.scale) :
    m ≤ f.nearest num den := by
  obtain ⟨below, -, hstop, hside⟩ := f.exists_nearest num den
  have hbelow : m ≤ below := by
    by_contra hlt
    have h1 := hstop (by omega)
    have h2 := f.units_mul_le den (show below + 1 ≤ m by omega)
    omega
  rcases hside with ⟨hside, -⟩ | ⟨hside, -⟩ <;> omega

theorem nearest_le (hden : 0 < den) (h : num * 2 ^ f.scale ≤ f.units m * den) :
    f.nearest num den ≤ m := by
  obtain ⟨below, hle, -, hside⟩ := f.exists_nearest num den
  have hstep : f.units below * den < f.units (below + 1) * den :=
    Nat.mul_lt_mul_of_pos_right (f.units_strictMono (Nat.lt_succ_self below)) hden
  rcases hside with ⟨hside, -⟩ | ⟨hside, hmiddle⟩
  · have hbelow : below ≤ m := by
      by_contra hlt
      have h1 : f.units m * den < f.units below * den :=
        Nat.mul_lt_mul_of_pos_right (f.units_strictMono (by omega)) hden
      omega
    omega
  · have habove : below + 1 ≤ m := by
      by_contra hlt
      have h1 := f.units_mul_le den (show m ≤ below by omega)
      omega
    omega

/-- A number that the format holds is not changed. -/
theorem nearest_of_eq (hden : 0 < den) (hm : m ≤ f.infinity)
    (h : f.units m * den = num * 2 ^ f.scale) : f.nearest num den = m :=
  Nat.le_antisymm (nearest_le hden (Nat.le_of_eq h.symm)) (le_nearest hm (Nat.le_of_eq h))

theorem nearest_zero (f : BinaryFormat) : f.nearest 0 1 = 0 :=
  nearest_of_eq Nat.one_pos (Nat.zero_le _) (by rw [units_zero, Nat.zero_mul, Nat.zero_mul])

/-- No magnitude is nearer. -/
theorem dist_nearest_le (hfinite : num * 2 ^ f.scale < f.units f.infinity * den) (m : Nat) :
    Nat.dist (f.units (f.nearest num den) * den) (num * 2 ^ f.scale) ≤
      Nat.dist (f.units m * den) (num * 2 ^ f.scale) := by
  obtain ⟨below, hle, hstop, hside⟩ := f.exists_nearest num den
  have hbelow : below < f.infinity := by
    by_contra hge
    have h1 := f.units_mul_le den (Nat.not_lt.mp hge)
    omega
  have hlt := hstop hbelow
  have hm : f.units m * den ≤ f.units below * den ∨ f.units (below + 1) * den ≤ f.units m * den := by
    rcases Nat.lt_or_ge below m with h | h
    · exact .inr (f.units_mul_le den h)
    · exact .inl (f.units_mul_le den h)
  unfold Nat.dist
  rcases hside with ⟨hside, hmiddle⟩ | ⟨hside, hmiddle⟩
  · rw [hside, Nat.min_eq_right (Nat.le_of_lt hbelow)]
    omega
  · rw [hside, Nat.min_eq_right (show below + 1 ≤ f.infinity from hbelow)]
    omega

/-- Whole numbers that have no more binary digits than the format keeps, but for zeros at
the end. -/
def Represents (f : BinaryFormat) (n : Nat) : Prop :=
  ∃ c j, c < 2 * f.hidden ∧ n = c * 2 ^ j

theorem represents_of_lt {n : Nat} (h : n < 2 * f.hidden) : f.Represents n :=
  ⟨n, 0, h, (Nat.mul_one n).symm⟩

/-- A number with more digits ends with zeros. -/
theorem Represents.dvd {n i : Nat} (h : f.Represents n) (hle : 2 * f.hidden * 2 ^ i ≤ n) :
    2 ^ (i + 1) ∣ n := by
  obtain ⟨c, j, hc, rfl⟩ := h
  have hlt : 2 * f.hidden * 2 ^ i < 2 * f.hidden * 2 ^ j :=
    Nat.lt_of_le_of_lt hle (Nat.mul_lt_mul_of_pos_right hc (Nat.pow_pos Nat.zero_lt_two))
  have hij : i < j := (Nat.pow_lt_pow_iff_right Nat.one_lt_two).mp (Nat.lt_of_mul_lt_mul_left hlt)
  exact Nat.dvd_mul_left_of_dvd (Nat.pow_dvd_pow 2 hij) c

theorem units_normal {c : Nat} (hlow : f.hidden ≤ c) (hhigh : c < 2 * f.hidden) (j : Nat) :
    f.units (f.hidden * (j + 1) + (c - f.hidden)) = c * 2 ^ j := by
  rw [units_eq f (j + 1) (by omega), if_neg (Nat.succ_ne_zero j), Nat.add_sub_cancel,
    Nat.add_sub_cancel' hlow]

theorem exists_units_eq {c : Nat} (hc : c < 2 * f.hidden) (j : Nat) :
    ∃ m, f.units m = c * 2 ^ j := by
  induction j generalizing c with
  | zero =>
    by_cases hsmall : c < f.hidden
    · have h := units_eq f 0 hsmall
      rw [if_pos rfl] at h
      exact ⟨_, h.trans (Nat.mul_one c).symm⟩
    · exact ⟨_, units_normal (Nat.not_lt.mp hsmall) hc 0⟩
  | succ j ih =>
    by_cases hsmall : c < f.hidden
    · obtain ⟨m, hm⟩ := ih (show 2 * c < 2 * f.hidden by omega)
      refine ⟨m, hm.trans ?_⟩
      rw [Nat.pow_succ, Nat.mul_comm 2 c, Nat.mul_assoc, Nat.mul_comm 2]
    · exact ⟨_, units_normal (Nat.not_lt.mp hsmall) hc (j + 1)⟩

theorem Represents.exists_units_eq {n : Nat} (h : f.Represents n) :
    ∃ m, f.units m = n * 2 ^ f.scale := by
  obtain ⟨c, j, hc, rfl⟩ := h
  obtain ⟨m, hm⟩ := BinaryFormat.exists_units_eq hc (j + f.scale)
  exact ⟨m, by rw [hm, Nat.pow_add, Nat.mul_assoc]⟩

theorem Represents.units_nearest {n : Nat} (hn : f.Represents n)
    (hfinite : n * 2 ^ f.scale < f.units f.infinity) : f.units (f.nearest n 1) = n * 2 ^ f.scale := by
  obtain ⟨m, hm⟩ := hn.exists_units_eq
  have hinfinity : m < f.infinity := f.units_strictMono.lt_iff_lt.mp (hm ▸ hfinite)
  rw [nearest_of_eq Nat.one_pos (Nat.le_of_lt hinfinity) (by rw [Nat.mul_one, hm]), hm]

/-- Whole numbers are rounded to whole numbers. From where the format keeps no digits after
the point, it holds nothing else. -/
theorem exists_represents_units_nearest {n : Nat} (hfinite : n * 2 ^ f.scale < f.units f.infinity) :
    ∃ k, f.Represents k ∧ f.units (f.nearest n 1) = k * 2 ^ f.scale := by
  by_cases hsmall : n < 2 * f.hidden
  · have hn := represents_of_lt hsmall
    exact ⟨n, hn, hn.units_nearest hfinite⟩
  · have hpos := f.hidden_pos
    have hleast := units_normal (f := f) (Nat.le_refl _) (by omega) f.scale
    rw [Nat.sub_self, Nat.add_zero] at hleast
    have hle : f.hidden * 2 ^ f.scale ≤ n * 2 ^ f.scale := Nat.mul_le_mul_right _ (by omega)
    have hinfinity : f.hidden * (f.scale + 1) < f.infinity :=
      f.units_strictMono.lt_iff_lt.mp (by omega)
    have hnearest : f.hidden * (f.scale + 1) ≤ f.nearest n 1 :=
      le_nearest (Nat.le_of_lt hinfinity) (by omega)
    obtain ⟨e, r, hr, hm⟩ : ∃ e r, r < f.hidden ∧ f.nearest n 1 = f.hidden * e + r :=
      ⟨_, _, Nat.mod_lt _ f.hidden_pos, (Nat.div_add_mod _ f.hidden).symm⟩
    have he : f.scale + 1 ≤ e := by
      by_contra hlt
      have h1 : f.hidden * (e + 1) ≤ f.hidden * (f.scale + 1) := Nat.mul_le_mul_left _ (by omega)
      rw [Nat.mul_add_one] at h1
      omega
    obtain ⟨i, rfl⟩ : ∃ i, e = f.scale + 1 + i := ⟨e - (f.scale + 1), by omega⟩
    refine ⟨(f.hidden + r) * 2 ^ i, ⟨f.hidden + r, i, by omega, rfl⟩, ?_⟩
    rw [hm, units_eq f _ hr, if_neg (by omega), show f.scale + 1 + i - 1 = i + f.scale by omega,
      Nat.pow_add, Nat.mul_assoc]

/-- No whole number that the format holds is nearer to `n` than `k`. -/
def NearestTo (f : BinaryFormat) (n k : Nat) : Prop :=
  f.Represents k ∧ ∀ k', f.Represents k' → Nat.dist k n ≤ Nat.dist k' n

section NearestTo

variable {n k k' : Nat} (h : f.NearestTo n k) (hk' : f.Represents k')

include h hk'

theorem NearestTo.le (hle : k' ≤ n) : k' ≤ k := by
  have hdist := h.2 k' hk'
  unfold Nat.dist at hdist
  omega

theorem NearestTo.ge (hle : n ≤ k') : k ≤ k' := by
  have hdist := h.2 k' hk'
  unfold Nat.dist at hdist
  omega

end NearestTo

theorem NearestTo.eq_of_represents {n k : Nat} (h : f.NearestTo n k) (hn : f.Represents n) : k = n :=
  Nat.le_antisymm (h.ge hn (Nat.le_refl n)) (h.le hn (Nat.le_refl n))

theorem exists_nearestTo {n : Nat} (hfinite : n * 2 ^ f.scale < f.units f.infinity) :
    ∃ k, f.NearestTo n k ∧ f.units (f.nearest n 1) = k * 2 ^ f.scale := by
  obtain ⟨k, hk, hunits⟩ := exists_represents_units_nearest hfinite
  refine ⟨k, ⟨hk, fun k' hk' => ?_⟩, hunits⟩
  obtain ⟨m, hm⟩ := hk'.exists_units_eq
  have hbound : n * 2 ^ f.scale < f.units f.infinity * 1 := by rwa [Nat.mul_one]
  have hdist := dist_nearest_le hbound m
  rw [Nat.mul_one, Nat.mul_one, hunits, hm, Nat.dist_mul_right, Nat.dist_mul_right] at hdist
  exact Nat.le_of_mul_le_mul_right hdist (Nat.pow_pos Nat.zero_lt_two)

theorem nearestDecimal_zero (f : BinaryFormat) (n : Nat) : f.nearestDecimal n 0 = f.nearest n 1 := by
  have hpos : (0 : Int) < 2 ^ f.exponentBits := Int.pow_pos (by decide)
  by_cases hn : n = 0
  · simp only [hn, nearest_zero, nearestDecimal, if_true]
  · simp only [nearestDecimal, if_neg hn]
    rw [if_neg (by omega), if_neg (by omega)]
    show f.nearest (n * 10 ^ 0) 1 = f.nearest n 1
    rw [Nat.pow_zero, Nat.mul_one]

theorem units_infinity (h : 0 < f.exponentBits) :
    f.units f.infinity = f.hidden * 2 ^ (2 ^ f.exponentBits - 2) := by
  have htwo : 2 ≤ 2 ^ f.exponentBits := Nat.pow_le_pow_right (n := 2) (by decide) h
  have hunits := units_eq f (2 ^ f.exponentBits - 1) f.hidden_pos
  rwa [if_neg (by omega), Nat.add_zero, Nat.add_zero, Nat.mul_comm f.hidden,
    Nat.sub_sub] at hunits

/-- Numbers below a power of two that is far enough below the largest one are finite. -/
theorem mul_lt_units_infinity {n k : Nat} (h : 0 < f.exponentBits) (hn : n < 2 ^ k)
    (hk : k + f.scale + 2 ≤ f.fractionBits + 2 ^ f.exponentBits) :
    n * 2 ^ f.scale < f.units f.infinity := by
  have htwo : 2 ≤ 2 ^ f.exponentBits := Nat.pow_le_pow_right (n := 2) (by decide) h
  calc n * 2 ^ f.scale < 2 ^ k * 2 ^ f.scale :=
        Nat.mul_lt_mul_of_pos_right hn (Nat.pow_pos Nat.zero_lt_two)
    _ = 2 ^ (k + f.scale) := (Nat.pow_add 2 k f.scale).symm
    _ ≤ 2 ^ (f.fractionBits + (2 ^ f.exponentBits - 2)) :=
        Nat.pow_le_pow_right Nat.zero_lt_two (by omega)
    _ = f.units f.infinity := by rw [units_infinity h, hidden, Nat.pow_add]

end RangeSort.BinaryFormat
