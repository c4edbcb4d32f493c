import RangeSort.Proofs.Binary.Nearest
import RangeSort.Proofs.Coercion.Field

/-! What is kept of a text as a whole number. An integer in range is kept as it is, and of
anything else that is a number the integer part, unless it is too large. -/

namespace RangeSort

namespace BinaryFormat

variable {f : BinaryFormat} {bits pattern : Nat}

/-- The integer part of a number that is not too large. -/
def wholePart (f : BinaryFormat) (bits pattern : Nat) : Option Int :=
  if f.exceeds bits pattern then none else some (f.truncate bits pattern)

theorem wholePart_nan (h : f.isNan pattern = true) : f.wholePart bits pattern = some 0 := by
  simp [wholePart, exceeds, truncate, h]

theorem wholePart_negative (hnan : f.isNan pattern = false) (h : f.isNegative pattern = true) :
    f.wholePart bits pattern =
      some (-((min (f.units (f.magnitude pattern) / 2 ^ f.scale) (2 ^ bits) : Nat) : Int)) := by
  simp [wholePart, exceeds, truncate, hnan, h]

theorem wholePart_positive (hnan : f.isNan pattern = false) (h : f.isNegative pattern = false) :
    f.wholePart bits pattern =
      if 2 ^ bits * 2 ^ f.scale < f.units (f.magnitude pattern) then none
      else some ((min (f.units (f.magnitude pattern) / 2 ^ f.scale) (2 ^ bits - 1) : Nat) : Int) := by
  simp [wholePart, exceeds, truncate, hnan, h]

theorem wholePart_bounds {n : Int} (h : f.wholePart bits pattern = some n) :
    -2 ^ bits ≤ n ∧ n < 2 ^ bits := by
  have hpow : ((2 ^ bits : Nat) : Int) = 2 ^ bits := by simp
  have hpos : 0 < 2 ^ bits := Nat.pow_pos Nat.zero_lt_two
  cases hnan : f.isNan pattern with
  | true =>
    rw [wholePart_nan hnan] at h
    cases h
    omega
  | false =>
    cases hsign : f.isNegative pattern with
    | true =>
      rw [wholePart_negative hnan hsign] at h
      generalize f.units (f.magnitude pattern) / 2 ^ f.scale = whole at h
      cases h
      omega
    | false =>
      rw [wholePart_positive hnan hsign] at h
      generalize f.units (f.magnitude pattern) / 2 ^ f.scale = whole at h
      split at h
      · cases h
      · cases h
        omega

end BinaryFormat

namespace WholeNumber

variable {bits : Nat} {s : List Char} {z : Int}

/-- The integer that a field gets. -/
def kept : WholeNumber → Option Int
  | .exact n => some n
  | .truncated n _ => some n
  | .tooLarge _ => none
  | .invalid _ => none

theorem read_eq_exact : read bits s = .exact z ↔ readInteger bits s = .ok z := by
  unfold read
  split
  · rename_i n hn
    rw [hn, exact.injEq, Except.ok.injEq]
  · rename_i cause hcause
    rw [hcause]
    refine iff_of_false ?_ nofun
    split
    · nofun
    · split <;> nofun

theorem kept_read_of_error {cause : IntegerFault} (h : readInteger bits s = .error cause) :
    (read bits s).kept = (binary64.readField s).bind (binary64.wholePart bits) := by
  rw [read, h]
  dsimp only
  cases binary64.readField s with
  | none => rfl
  | some number =>
    rw [Option.bind_some, BinaryFormat.wholePart]
    dsimp only
    split <;> rfl

theorem kept_read_bounds (h : (read bits s).kept = some z) : -2 ^ bits ≤ z ∧ z < 2 ^ bits := by
  cases hread : readInteger bits s with
  | ok n =>
    rw [read_eq_exact.mpr hread] at h
    cases h
    exact (Spelling.of_readInteger hread).2
  | error cause =>
    rw [kept_read_of_error hread] at h
    obtain ⟨number, -, hnumber⟩ := Option.bind_eq_some_iff.mp h
    exact BinaryFormat.wholePart_bounds hnumber

/-- A spelled-out integer that is not read as one is rounded to the nearest double first. -/
theorem exists_nearest_kept (before after : List Char) {cause : IntegerFault}
    (hbefore : ∀ c ∈ before, isBlank c = true) (hafter : ∀ c ∈ after, isBlank c = true)
    (h : Spelling z s) (hz : z.natAbs < 2 ^ 64)
    (hcause : readInteger bits (before ++ s ++ after) = .error cause) :
    ∃ k, binary64.NearestTo z.natAbs k ∧ (read bits (before ++ s ++ after)).kept =
      if z < 0 then some (-((min k (2 ^ bits) : Nat) : Int))
      else if 2 ^ bits < k then none else some ((min k (2 ^ bits - 1) : Nat) : Int) := by
  obtain ⟨negative, hfield, hsign⟩ := readField_spelling hbefore hafter binary64 h
  have hpos : 0 < 2 ^ binary64.scale := Nat.pow_pos Nat.zero_lt_two
  obtain ⟨k, hk, hunits⟩ := BinaryFormat.exists_nearestTo (f := binary64)
    (BinaryFormat.mul_lt_units_infinity (k := 64) (by decide) hz (by decide))
  have hle := binary64.nearest_le_infinity z.natAbs 1
  have hnan := BinaryFormat.isNan_withSign hle negative
  have hnegative := BinaryFormat.isNegative_withSign hle negative
  have hwhole : k * 2 ^ binary64.scale / 2 ^ binary64.scale = k := Nat.mul_div_cancel k hpos
  refine ⟨k, hk, ?_⟩
  rw [kept_read_of_error hcause, hfield, BinaryFormat.nearestDecimal_zero, Option.bind_some]
  cases negative with
  | true =>
    rw [if_pos rfl] at hsign
    rw [BinaryFormat.wholePart_negative hnan hnegative, BinaryFormat.magnitude_withSign hle, hunits,
      hwhole]
    -- Zero may be spelled with a minus.
    by_cases hzero : z = 0
    · have hkzero : k = 0 := by
        rw [hzero] at hk
        exact hk.eq_of_represents (BinaryFormat.represents_of_lt (by decide))
      rw [hzero, hkzero, Nat.zero_min, Nat.zero_min]
      rfl
    · rw [if_pos (by omega)]
  | false =>
    rw [if_neg Bool.false_ne_true] at hsign
    rw [BinaryFormat.wholePart_positive hnan hnegative, BinaryFormat.magnitude_withSign hle, hunits,
      hwhole, if_neg (show ¬ z < 0 by omega)]
    simp only [Nat.mul_lt_mul_right hpos]

end WholeNumber

namespace Coerced

variable (target : Kind) (bits : Nat) (wrap : Int → Value) (octets : Octets)

theorem result_integer : (integer target bits wrap octets).result =
    .ok ((WholeNumber.read bits (Utf8.decode octets)).kept.elim .null wrap) := by
  unfold integer
  dsimp only
  generalize WholeNumber.read bits (Utf8.decode octets) = number
  cases number <;> rfl

/-- A whole number is null or a machine word, and the word holds what is kept of the text. -/
theorem integer_cases {Word : Type} (target : Kind) {bits : Nat} (wrap : Word → Value)
    {ofInt : Int → Word} {toInt : Word → Int}
    (h : ∀ n, -2 ^ bits ≤ n → n < 2 ^ bits → toInt (ofInt n) = n) (octets : Octets) :
    (integer target bits (fun n => wrap (ofInt n)) octets).result = .ok .null ∧
        (WholeNumber.read bits (Utf8.decode octets)).kept = none ∨
      ∃ v, (integer target bits (fun n => wrap (ofInt n)) octets).result = .ok (wrap v) ∧
        (WholeNumber.read bits (Utf8.decode octets)).kept = some (toInt v) := by
  rw [result_integer]
  cases hkept : (WholeNumber.read bits (Utf8.decode octets)).kept with
  | none => exact .inl ⟨rfl, rfl⟩
  | some n =>
    obtain ⟨hlow, hhigh⟩ := WholeNumber.kept_read_bounds hkept
    exact .inr ⟨ofInt n, rfl, congrArg some (h n hlow hhigh).symm⟩

theorem warnings_integer : (integer target bits wrap octets).warnings = [] ↔
    ∃ z, readInteger bits (Utf8.decode octets) = .ok z := by
  simp only [← WholeNumber.read_eq_exact]
  unfold integer
  dsimp only
  generalize WholeNumber.read bits (Utf8.decode octets) = number
  cases number with
  | exact n => exact iff_of_true rfl ⟨n, rfl⟩
  | _ => exact iff_of_false nofun nofun

end Coerced

end RangeSort
