import RangeSort.Proofs.Coercion.WholeNumber

/-! The same text read as a long and as an int. What fits into both is the same number, and
what fits only into the long is brought to an end of the int's range or is null. -/

namespace RangeSort

/-- What `bits` binary digits keep of a text, next to what more digits keep of it. -/
inductive Narrowed (bits : Nat) : (wide narrow : Option Int) → Prop
  | missing : Narrowed bits none none
  | dropped {n : Int} (h : 2 ^ bits ≤ n) : Narrowed bits (some n) none
  | clamped {n m : Int} (h : n ≤ 2 ^ bits) (hm : m = max (-2 ^ bits) (min n (2 ^ bits - 1))) :
      Narrowed bits (some n) (some m)

section Doubles

variable {f : BinaryFormat} {narrow wide pattern : Nat}

theorem narrowed_negative (h : narrow < wide) (hnan : f.isNan pattern = false)
    (hsign : f.isNegative pattern = true) :
    Narrowed narrow (f.wholePart wide pattern) (f.wholePart narrow pattern) := by
  have hpow : ((2 ^ narrow : Nat) : Int) = 2 ^ narrow := by simp
  have hone : 0 < 2 ^ narrow := Nat.pow_pos Nat.zero_lt_two
  have hlt : 2 ^ narrow < 2 ^ wide := Nat.pow_lt_pow_right Nat.one_lt_two h
  rw [BinaryFormat.wholePart_negative hnan hsign, BinaryFormat.wholePart_negative hnan hsign]
  generalize f.units (f.magnitude pattern) / 2 ^ f.scale = whole
  exact .clamped (by omega) (by omega)

theorem narrowed_positive (h : narrow < wide) (hnan : f.isNan pattern = false)
    (hsign : f.isNegative pattern = false) :
    Narrowed narrow (f.wholePart wide pattern) (f.wholePart narrow pattern) := by
  have hpow : ((2 ^ narrow : Nat) : Int) = 2 ^ narrow := by simp
  have hone : 0 < 2 ^ narrow := Nat.pow_pos Nat.zero_lt_two
  have hpos : 0 < 2 ^ f.scale := Nat.pow_pos Nat.zero_lt_two
  have hlt : 2 ^ narrow < 2 ^ wide := Nat.pow_lt_pow_right Nat.one_lt_two h
  have hbound : 2 ^ narrow * 2 ^ f.scale ≤ 2 ^ wide * 2 ^ f.scale :=
    Nat.mul_le_mul_right _ (Nat.le_of_lt hlt)
  rw [BinaryFormat.wholePart_positive hnan hsign, BinaryFormat.wholePart_positive hnan hsign]
  generalize f.units (f.magnitude pattern) = units
  by_cases hwide : 2 ^ wide * 2 ^ f.scale < units
  · rw [if_pos hwide, if_pos (by omega)]
    exact .missing
  · rw [if_neg hwide]
    by_cases hnarrow : 2 ^ narrow * 2 ^ f.scale < units
    · have hwhole : 2 ^ narrow ≤ units / 2 ^ f.scale :=
        (Nat.le_div_iff_mul_le hpos).mpr (Nat.le_of_lt hnarrow)
      rw [if_pos hnarrow]
      exact .dropped (by omega)
    · have hwhole : units / 2 ^ f.scale ≤ 2 ^ narrow :=
        Nat.div_le_of_le_mul (by rwa [Nat.mul_comm, ← Nat.not_lt])
      rw [if_neg hnarrow]
      generalize units / 2 ^ f.scale = whole at hwhole ⊢
      exact .clamped (by omega) (by omega)

theorem narrowed_wholePart (f : BinaryFormat) (h : narrow < wide) (pattern : Nat) :
    Narrowed narrow (f.wholePart wide pattern) (f.wholePart narrow pattern) := by
  cases hnan : f.isNan pattern with
  | true =>
    have hpos : (0 : Int) < 2 ^ narrow := Int.pow_pos (by decide)
    rw [BinaryFormat.wholePart_nan hnan, BinaryFormat.wholePart_nan hnan]
    exact .clamped (by omega) (by omega)
  | false =>
    cases hsign : f.isNegative pattern with
    | true => exact narrowed_negative h hnan hsign
    | false => exact narrowed_positive h hnan hsign

end Doubles

namespace WholeNumber

variable {bits narrow wide : Nat} {s : List Char} {z : Int}

/-- An integer out of range is rounded to a double, which is not inside the range either: both
ends of the range are doubles, and so is the number behind the upper end. -/
theorem narrowed_kept {cause : IntegerFault} (hbits : bits ≤ 52) (h : Spelling z s)
    (hz : z.natAbs < 2 ^ 64) (hcause : readInteger bits s = .error cause) :
    Narrowed bits (some z) (read bits s).kept := by
  have hpow : ((2 ^ bits : Nat) : Int) = 2 ^ bits := by simp
  have hone : 0 < 2 ^ bits := Nat.pow_pos Nat.zero_lt_two
  have hle : 2 ^ bits ≤ 2 ^ 52 := Nat.pow_le_pow_right Nat.zero_lt_two hbits
  have hrepresents {n : Nat} (hn : n ≤ 2 ^ bits + 1) : binary64.Represents n :=
    BinaryFormat.represents_of_lt (show n < 2 * 2 ^ 52 by omega)
  have hrange : z < -2 ^ bits ∨ 2 ^ bits ≤ z := by
    by_contra hinside
    rw [h.readInteger_eq (by omega) (by omega)] at hcause
    cases hcause
  obtain ⟨k, hk, hkept⟩ := exists_nearest_kept [] [] nofun nofun h hz
    (by rwa [List.nil_append, List.append_nil])
  rw [List.nil_append, List.append_nil] at hkept
  rw [hkept]
  rcases hrange with hlow | hhigh
  · have hreaches := hk.le (hrepresents (Nat.le_succ _)) (by omega)
    rw [if_pos (by omega)]
    exact .clamped (by omega) (by omega)
  · rw [if_neg (by omega)]
    by_cases hend : z = 2 ^ bits
    · have hsame := hk.eq_of_represents (hrepresents (by omega))
      rw [if_neg (by omega)]
      exact .clamped (by omega) (by omega)
    · have hreaches := hk.le (hrepresents (Nat.le_refl _)) (by omega)
      rw [if_pos (Nat.lt_of_succ_le hreaches)]
      exact .dropped hhigh

/-- What is kept of a text depends on the number of binary digits at the ends of the range
only. -/
theorem narrowed_read (hnarrow : narrow ≤ 52) (hwide : wide < 64) (h : narrow < wide)
    (s : List Char) : Narrowed narrow (read wide s).kept (read narrow s).kept := by
  cases hr : readInteger narrow s with
  | ok z =>
    obtain ⟨-, hlow, hhigh⟩ := Spelling.of_readInteger hr
    have hw := Spelling.readInteger_of_le (Nat.le_of_lt h) hr
    rw [read_eq_exact.mpr hr, read_eq_exact.mpr hw]
    exact .clamped (by omega) (by omega)
  | error cause =>
    cases hw : readInteger wide s with
    | ok z =>
      -- The only case where the wider one is exact and the narrower one is rounded.
      obtain ⟨hz, hlow, hhigh⟩ := Spelling.of_readInteger hw
      have hmost : (2 : Int) ^ wide ≤ 2 ^ 63 := by
        exact_mod_cast Nat.pow_le_pow_right Nat.zero_lt_two (Nat.le_of_lt_succ hwide)
      rw [read_eq_exact.mpr hw]
      exact narrowed_kept hnarrow hz (by omega) hr
    | error cause' =>
      -- Both are made of the same double.
      rw [kept_read_of_error hw, kept_read_of_error hr]
      cases binary64.readField s with
      | none => exact .missing
      | some number => exact narrowed_wholePart binary64 h number

end WholeNumber

/-- An int field next to a long field with the same octets. -/
theorem coerce_int_of_long (octets : Octets) :
    let long := coerce .long (some octets)
    let int := coerce .int (some octets)
    (long.result = .ok .null ∨ ∃ v, long.result = .ok (.long v)) ∧
      (long.result = .ok .null → int.result = .ok .null) ∧
      (∀ v : Int64, long.result = .ok (.long v) →
        (-2 ^ 31 ≤ v.toInt → v.toInt ≤ 2 ^ 31 - 1 →
          ∃ n : Int32, int.result = .ok (.int n) ∧ n.toInt = v.toInt) ∧
        (v.toInt < -2 ^ 31 → int.result = .ok (.int Int32.minValue)) ∧
        (2 ^ 31 < v.toInt → int.result = .ok .null) ∧
        (v.toInt = 2 ^ 31 →
          int.result = .ok .null ∨ int.result = .ok (.int Int32.maxValue))) ∧
      (long.warnings ≠ [] → int.warnings ≠ []) := by
  intro long int
  have hlong : long.result = .ok .null ∧ _ ∨ ∃ v, long.result = .ok (.long v) ∧ _ :=
    Coerced.integer_cases .long .long (fun _ => Int64.toInt_ofInt_of_le) octets
  have hint : int.result = .ok .null ∧ _ ∨ ∃ n, int.result = .ok (.int n) ∧ _ :=
    Coerced.integer_cases .int .int (fun _ => Int32.toInt_ofInt_of_le) octets
  have hnarrowed := WholeNumber.narrowed_read (show 31 ≤ 52 by decide) (show 63 < 64 by decide)
    (by decide) (Utf8.decode octets)
  have hwarnings : int.warnings = [] → long.warnings = [] := by
    intro hnone
    obtain ⟨z, hz⟩ := (Coerced.warnings_integer ..).mp hnone
    exact (Coerced.warnings_integer ..).mpr ⟨z, Spelling.readInteger_of_le (by decide) hz⟩
  rcases hlong with ⟨hlong, hkept⟩ | ⟨v, hlong, hkept⟩
  · rw [hkept] at hnarrowed
    rcases hint with ⟨hint, -⟩ | ⟨n, -, hn⟩
    · refine ⟨.inl hlong, fun _ => hint, fun v hv => ?_, mt hwarnings⟩
      rw [hlong] at hv
      cases hv
    · rw [hn] at hnarrowed
      cases hnarrowed
  · rw [hkept] at hnarrowed
    refine ⟨.inr ⟨v, hlong⟩, fun h => ?_, fun w hw => ?_, mt hwarnings⟩
    · rw [hlong] at h
      cases h
    · rw [hlong] at hw
      cases hw
      rcases hint with ⟨hint, hn⟩ | ⟨n, hint, hn⟩
      · rw [hn] at hnarrowed
        have hlarge : 2 ^ 31 ≤ v.toInt := by
          cases hnarrowed with
          | dropped h => exact h
        exact ⟨by omega, by omega, fun _ => hint, fun _ => .inl hint⟩
      · rw [hn] at hnarrowed
        obtain ⟨hle, hclamped⟩ : v.toInt ≤ 2 ^ 31 ∧
            n.toInt = max (-2 ^ 31) (min v.toInt (2 ^ 31 - 1)) := by
          cases hnarrowed with
          | clamped h hm => exact ⟨h, hm⟩
        refine ⟨fun _ _ => ⟨n, hint, by omega⟩, fun h => ?_, by omega, fun h => .inr ?_⟩
        · have hend : n = Int32.minValue :=
            Int32.toInt_inj.mp (by rw [Int32.toInt_minValue]; omega)
          exact hend ▸ hint
        · have hend : n = Int32.maxValue :=
            Int32.toInt_inj.mp (by rw [Int32.toInt_maxValue]; omega)
          exact hend ▸ hint

/-- Longs next to the ends of the int's range. -/
theorem coerce_int_of_long_ends :
    (coerce .long (some (Utf8.encodeText "-2147483649"))).result = .ok (.long (-2147483649)) ∧
    (coerce .int (some (Utf8.encodeText "-2147483649"))).result = .ok (.int Int32.minValue) ∧
    (coerce .long (some (Utf8.encodeText "2147483648"))).result = .ok (.long 2147483648) ∧
    (coerce .int (some (Utf8.encodeText "2147483648"))).result = .ok (.int Int32.maxValue) ∧
    (coerce .long (some (Utf8.encodeText "2147483649"))).result = .ok (.long 2147483649) ∧
    (coerce .int (some (Utf8.encodeText "2147483649"))).result = .ok .null := by
  obtain ⟨-, -, hbelow, -⟩ := coerce_int_of_long (Utf8.encodeText "-2147483649")
  obtain ⟨-, -, hbehind, -⟩ := coerce_int_of_long (Utf8.encodeText "2147483648")
  obtain ⟨-, -, habove, -⟩ := coerce_int_of_long (Utf8.encodeText "2147483649")
  have hkept : (WholeNumber.read 31 (Utf8.decode (Utf8.encodeText "2147483648"))).kept =
      some (2 ^ 31 - 1) := by
    decide +kernel
  have hint := Coerced.result_integer .int 31 (fun n => .int (Int32.ofInt n))
    (Utf8.encodeText "2147483648")
  rw [hkept] at hint
  refine ⟨rfl, (hbelow _ rfl).2.1 (by decide), rfl, ?_, rfl, (habove _ rfl).2.2.1 (by decide)⟩
  -- Either is allowed at the number behind the range, and the double is brought back to its end.
  rcases (hbehind _ rfl).2.2.2 (by decide) with hnull | hmost
  · cases hnull.symm.trans hint
  · exact hmost

end RangeSort
