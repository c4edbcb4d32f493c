import RangeSort.Proofs.Binary.Layout
import RangeSort.Value.Atom
import RangeSort.Value.Text

/-! The texts of atoms are read as the atoms that they were written for. -/

namespace RangeSort

theorem ne_of_class {p : Char → Bool} {c d : Char} (h : p c = true) (hd : p d = false) : c ≠ d := by
  rintro rfl
  rw [h] at hd
  cases hd

/-- The characters of unquoted values. -/
def isWordChar (c : Char) : Bool :=
  c.isAlphanum || c == '.' || c == '-'

theorem isWordChar_of_isDigit {c : Char} (h : c.isDigit = true) : isWordChar c = true := by
  rw [isWordChar, Char.isAlphanum, h, Bool.or_true, Bool.true_or, Bool.true_or]

theorem toLower_of_isDigit {c : Char} (h : c.isDigit = true) : c.toLower = c := by
  have hnot : ¬ (c.val ≥ 'A'.val ∧ c.val ≤ 'Z'.val) := by
    intro hupper
    simp only [Char.isDigit, Bool.and_eq_true, decide_eq_true_eq] at h
    have h1 := UInt32.le_iff_toNat_le.mp h.2
    have h2 := UInt32.le_iff_toNat_le.mp hupper.1
    exact absurd (Nat.le_trans h2 h1) (by decide)
  exact dif_neg hnot

theorem spells_eq_false {w : String} {s : List Char} {c : Char} (hc : c ∈ s)
    (hdigit : c.isDigit = true) (hw : w.toList.any Char.isDigit = false) : spells w s = false := by
  rw [spells, beq_eq_false_iff_ne]
  intro h
  have hmem : c.toLower ∈ w.toList := h ▸ List.mem_map_of_mem hc
  rw [toLower_of_isDigit hdigit] at hmem
  exact absurd hdigit (List.any_eq_false.mp hw c hmem)

namespace Atom

/-- The text can stand unquoted for the value. -/
structure ReadsAs (s : List Char) (v : Value) : Prop where
  read_eq : read s = v
  word : ∀ c ∈ s, isWordChar c = true
  head_ne : ∀ c ∈ s.head?, c ≠ 'n'

theorem ReadsAs.of_all {s : List Char} {v : Value} (hread : read s = v)
    (hword : s.all isWordChar = true) (hhead : s.head? ≠ some 'n') : ReadsAs s v where
  read_eq := hread
  word := List.all_eq_true.mp hword
  head_ne := by
    rintro c hc rfl
    exact hhead hc

section Readings

variable {s : List Char}

theorem withoutSuffix_append (upper lower : Char) (s : List Char) :
    withoutSuffix upper lower (s ++ [upper]) = some s := by
  simp [withoutSuffix]

theorem withoutSuffix_eq_none {upper lower : Char}
    (h : ∀ c ∈ s.getLast?, c ≠ upper ∧ c ≠ lower) : withoutSuffix upper lower s = none := by
  unfold withoutSuffix
  split
  · rename_i c hc
    rw [if_neg (not_or.mpr (h c hc))]
  · rfl

theorem withoutSuffix_of_isDigit (upper lower : Char) (hupper : upper.isDigit = false)
    (hlower : lower.isDigit = false) (h : ∀ c ∈ s.getLast?, c.isDigit = true) :
    withoutSuffix upper lower s = none :=
  withoutSuffix_eq_none fun c hc => ⟨ne_of_class (h c hc) hupper, ne_of_class (h c hc) hlower⟩

theorem boolean?_eq_none {c : Char} (hc : c ∈ s) (hdigit : c.isDigit = true) :
    boolean? s = none := by
  rw [boolean?, spells_eq_false hc hdigit (by decide), spells_eq_false hc hdigit (by decide)]
  rfl

theorem readInteger_toOption_eq_none (bits : Nat) {c : Char} (hc : c ∈ s)
    (hmark : c.isDigit = false ∧ c ≠ '+' ∧ c ≠ '-') : (readInteger bits s).toOption = none := by
  cases h : readInteger bits s with
  | error e => rfl
  | ok z =>
    rcases chars_of_readInteger h c hc with hd | rfl | rfl
    · rw [hmark.1] at hd
      cases hd
    · exact absurd rfl hmark.2.1
    · exact absurd rfl hmark.2.2

theorem special?_eq_none (f : BinaryFormat) {c : Char} (hc : c ∈ s) (hdigit : c.isDigit = true) :
    special? f s = none := by
  have hne {w : String} (hw : w.toList.any Char.isDigit = false) : s ≠ w.toList := by
    rintro rfl
    exact absurd hdigit (List.any_eq_false.mp hw c hc)
  rw [special?, if_neg (hne (by decide)), if_neg (hne (by decide)), if_neg (hne (by decide))]

end Readings

section Integers

theorem exists_isDigit_integerChars (z : Int) : ∃ c ∈ integerChars z, c.isDigit = true := by
  obtain ⟨c, hc⟩ := List.getLast?_isSome.mpr (integerChars_ne_nil z) |> Option.isSome_iff_exists.mp
  exact ⟨c, List.mem_of_getLast? hc, isDigit_getLast?_integerChars z c hc⟩

theorem isWordChar_integerChars {z : Int} {c : Char} (h : c ∈ integerChars z) :
    isWordChar c = true := by
  rcases isDigit_of_mem_integerChars h with hd | rfl
  · exact isWordChar_of_isDigit hd
  · decide

theorem head_integerChars {z : Int} {c : Char} (h : c ∈ (integerChars z).head?) : c ≠ 'n' := by
  rcases isDigit_of_mem_integerChars (List.mem_of_mem_head? h) with hd | rfl
  · exact ne_of_class hd (by decide)
  · decide

end Integers

theorem readsAs_null : ReadsAs [] .null := ⟨rfl, nofun, nofun⟩

theorem readsAs_boolean (b : Bool) : ReadsAs (boolChars b) (.boolean b) := by
  cases b with
  | true => exact .of_all rfl (by decide) (by decide)
  | false => exact .of_all rfl (by decide) (by decide)

theorem readsAs_int (n : Int32) : ReadsAs (integerChars n.toInt) (.int n) := by
  refine ⟨?_, fun c => isWordChar_integerChars, fun c => head_integerChars⟩
  obtain ⟨c, hc, hdigit⟩ := exists_isDigit_integerChars n.toInt
  have hread : int? (integerChars n.toInt) = some (.int n) := by
    rw [int?, readInteger_integerChars n.le_toInt n.toInt_lt]
    simp [Except.toOption]
  have hsuffix := withoutSuffix_of_isDigit 'L' 'l' (by decide) (by decide)
    (isDigit_getLast?_integerChars n.toInt)
  rw [read, if_neg (by simpa using integerChars_ne_nil n.toInt)]
  simp [boolean?_eq_none hc hdigit, hsuffix, hread]

theorem isWordChar_append {s : List Char} {suffix : Char} (hs : ∀ c ∈ s, isWordChar c = true)
    (hsuffix : isWordChar suffix = true) : ∀ c ∈ s ++ [suffix], isWordChar c = true := by
  intro c hc
  rcases List.mem_append.mp hc with hc | hc
  · exact hs c hc
  · cases List.mem_singleton.mp hc
    exact hsuffix

theorem head_append {s : List Char} {suffix : Char} (hne : s ≠ [])
    (hs : ∀ c ∈ s.head?, c ≠ 'n') : ∀ c ∈ (s ++ [suffix]).head?, c ≠ 'n' := by
  intro c hc
  rw [List.head?_append, List.head?_eq_some_head hne] at hc
  exact hs c (by rw [List.head?_eq_some_head hne]; exact hc)

theorem readsAs_long (n : Int64) : ReadsAs (integerChars n.toInt ++ ['L']) (.long n) := by
  obtain ⟨c, hc, hdigit⟩ := exists_isDigit_integerChars n.toInt
  have hread : long? (integerChars n.toInt) = some (.long n) := by
    rw [long?, readInteger_integerChars n.le_toInt n.toInt_lt]
    simp [Except.toOption]
  refine ⟨?_, isWordChar_append (fun c => isWordChar_integerChars) (by decide),
    head_append (integerChars_ne_nil _) fun c => head_integerChars⟩
  have hboolean := boolean?_eq_none (List.mem_append_left ['L'] hc) hdigit
  rw [read, if_neg (by simp)]
  simp [hboolean, withoutSuffix_append, hread]

section Numerals

variable (negative : Bool) (t : DecimalText)

theorem isWordChar_signedChars {c : Char} (h : c ∈ t.signedChars negative) :
    isWordChar c = true := by
  rcases t.mem_signedChars negative h with h | rfl | rfl | rfl
  · exact isWordChar_of_isDigit h
  · decide
  · decide
  · decide

theorem head_signedChars {c : Char} (h : c ∈ (t.signedChars negative).head?) : c ≠ 'n' := by
  rcases t.mem_signedChars negative (List.mem_of_mem_head? h) with hd | rfl | rfl | rfl
  · exact ne_of_class hd (by decide)
  · decide
  · decide
  · decide

theorem numeral?_signedChars (f : BinaryFormat) : numeral? f (t.signedChars negative) =
    some (f.withSign negative (f.nearestDecimal t.coefficient t.power)) := by
  obtain ⟨c, hc, hdigit⟩ := t.exists_isDigit_signedChars negative
  rw [numeral?, if_pos (List.any_eq_true.mpr ⟨c, hc, hdigit⟩), BinaryFormat.read,
    t.read_signedChars]
  rfl

end Numerals

theorem readsAs_float (bits : UInt32) : ReadsAs (floatChars bits ++ ['F'])
    (.float (if binary32.isNan bits.toNat then UInt32.ofNat binary32.quietNan else bits)) := by
  have hbits : bits.toNat < 2 * binary32.signBit := bits.toNat_lt
  have hspelled := BinaryFormat.spelled_chars BinaryFormat.regular_binary32 hbits
  rw [floatChars]
  generalize FloatLayout.value.chars binary32 bits.toNat = s at hspelled ⊢
  cases hspelled with
  | nan h =>
    rw [if_pos h]
    exact .of_all rfl (by decide) (by decide)
  | infinite negative hnan h =>
    have hinfinite : UInt32.ofNat (binary32.withSign negative binary32.infinity) = bits := by
      rw [h, UInt32.ofNat_toNat]
    rw [hnan, if_neg Bool.false_ne_true, ← hinfinite]
    cases negative with
    | true => exact .of_all rfl (by decide) (by decide)
    | false => exact .of_all rfl (by decide) (by decide)
  | finite negative t hnan h =>
    have hnumeral := numeral?_signedChars negative t binary32
    have hhead : ∀ c ∈ (t.signedChars negative).head?, c ≠ 'n' := fun c => head_signedChars _ _
    have hword : ∀ c ∈ t.signedChars negative, isWordChar c = true :=
      fun c => isWordChar_signedChars _ _
    obtain ⟨c, hc, hdigit⟩ := t.exists_isDigit_signedChars negative
    generalize t.signedChars negative = s at *
    refine ⟨?_, isWordChar_append hword (by decide),
      head_append (List.ne_nil_of_mem hc) hhead⟩
    have hlong : withoutSuffix 'L' 'l' (s ++ ['F']) = none :=
      withoutSuffix_eq_none (by simp)
    have hF : 'F' ∈ s ++ ['F'] := by simp
    have hinteger (bits : Nat) := readInteger_toOption_eq_none bits hF (by decide)
    rw [read, if_neg (by simp), boolean?_eq_none (List.mem_append_left _ hc) hdigit, hlong,
      float?, withoutSuffix_append, int?, long?, hinteger, hinteger]
    simp [special?_eq_none binary32 hc hdigit, hnumeral, h, hnan]

theorem readsAs_double (bits : UInt64) : ReadsAs (doubleChars bits)
    (.double (if binary64.isNan bits.toNat then UInt64.ofNat binary64.quietNan else bits)) := by
  have hbits : bits.toNat < 2 * binary64.signBit := bits.toNat_lt
  have hspelled := BinaryFormat.spelled_chars BinaryFormat.regular_binary64 hbits
  rw [doubleChars]
  generalize FloatLayout.value.chars binary64 bits.toNat = s at hspelled ⊢
  cases hspelled with
  | nan h =>
    rw [if_pos h]
    exact .of_all rfl (by decide) (by decide)
  | infinite negative hnan h =>
    have hinfinite : UInt64.ofNat (binary64.withSign negative binary64.infinity) = bits := by
      rw [h, UInt64.ofNat_toNat]
    rw [hnan, if_neg Bool.false_ne_true, ← hinfinite]
    cases negative with
    | true => exact .of_all rfl (by decide) (by decide)
    | false => exact .of_all rfl (by decide) (by decide)
  | finite negative t hnan h =>
    have hnumeral := numeral?_signedChars negative t binary64
    have hlast := t.isDigit_getLast?_signedChars negative
    have hmark : ∃ c ∈ t.signedChars negative, c = '.' ∨ c = 'e' := by
      rcases t.mark_mem_chars with hc | hc
      · exact ⟨'.', t.mem_signedChars_of_mem negative hc, .inl rfl⟩
      · exact ⟨'e', t.mem_signedChars_of_mem negative hc, .inr rfl⟩
    obtain ⟨c, hc, hdigit⟩ := t.exists_isDigit_signedChars negative
    refine ⟨?_, fun c => isWordChar_signedChars _ _, fun c => head_signedChars _ _⟩
    generalize t.signedChars negative = s at *
    obtain ⟨m, hm, hmark⟩ := hmark
    have hinteger (bits : Nat) := readInteger_toOption_eq_none bits hm
      (by rcases hmark with rfl | rfl <;> decide)
    have hmarked : s.any (fun c => c == '.' || c == 'e' || c == 'E') = true := by
      rw [List.any_eq_true]
      exact ⟨m, hm, by rcases hmark with rfl | rfl <;> decide⟩
    rw [read, if_neg (by simpa using List.ne_nil_of_mem hc), boolean?_eq_none hc hdigit,
      withoutSuffix_of_isDigit _ _ (by decide) (by decide) hlast, float?,
      withoutSuffix_of_isDigit _ _ (by decide) (by decide) hlast, double?, if_pos hmarked, int?, long?,
      hinteger, hinteger]
    simp [special?_eq_none binary64 hc hdigit, hnumeral, h, hnan]

end Atom

end RangeSort
