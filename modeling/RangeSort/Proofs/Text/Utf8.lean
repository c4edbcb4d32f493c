import RangeSort.Text.Utf8

/-! Octets written for characters are read back as those characters, and only such octets are
written back as they were. -/

namespace RangeSort.Utf8

theorem encode_cons (c : Char) (s : List Char) : encode (c :: s) = encodeChar c ++ encode s := rfl

theorem encode_append (s t : List Char) : encode (s ++ t) = encode s ++ encode t :=
  List.flatMap_append

theorem encodeChar_ascii {c : Char} (h : c.toNat < 0x80) :
    encodeChar c = [c.toUInt8] := by
  simp only [encodeChar, h, if_true]
  rfl

theorem encode_between {o c : Char} (ho : o.toNat < 0x80) (hc : c.toNat < 0x80) (s : List Char)
    (rest : Octets) :
    encode (o :: (s ++ [c])) ++ rest = o.toUInt8 :: (encode s ++ c.toUInt8 :: rest) := by
  rw [encode_cons, encodeChar_ascii ho, encode_append, encode_cons, encodeChar_ascii hc,
    List.append_assoc, List.append_assoc]
  rfl

theorem toNat_lt (c : Char) : c.toNat < 0x110000 := by
  have := c.valid
  simp only [UInt32.isValidChar, Nat.isValidChar] at this
  show c.val.toNat < 0x110000
  omega

theorem le_of_mem_encodeChar {c : Char} (h : 0x80 ≤ c.toNat) :
    ∀ b ∈ encodeChar c, 0x80 ≤ b.toNat := by
  have hc := toNat_lt c
  intro b hb
  simp only [encodeChar, if_neg (Nat.not_lt.mpr h)] at hb
  split at hb
  · simp only [List.mem_cons, List.not_mem_nil, or_false] at hb
    rcases hb with rfl | rfl <;> simp only [UInt8.toNat_ofNat'] <;> omega
  · split at hb
    · simp only [List.mem_cons, List.not_mem_nil, or_false] at hb
      rcases hb with rfl | rfl | rfl <;> simp only [UInt8.toNat_ofNat'] <;> omega
    · simp only [List.mem_cons, List.not_mem_nil, or_false] at hb
      rcases hb with rfl | rfl | rfl | rfl <;> simp only [UInt8.toNat_ofNat'] <;> omega

theorem toNat_ofNat {n : Nat} (h : n < 0xD800) : (Char.ofNat n).toNat = n := by
  have hvalid : n.isValidChar := .inl h
  rw [Char.ofNat, dif_pos hvalid]
  rfl

theorem toNat_toUInt8 {c : Char} (h : c.toNat < 0x100) : c.toUInt8.toNat = c.toNat := by
  show c.toNat % 256 = c.toNat
  omega

/-- An ASCII octet occurs in the octets of its own character only. -/
theorem ne_of_mem_encodeChar {a c : Char} (ha : a.toNat < 0x80) (hne : c ≠ a) :
    ∀ b ∈ encodeChar c, b ≠ a.toUInt8 := by
  intro b hb hba
  have hbn : b.toNat = a.toNat := by rw [hba, toNat_toUInt8 (by omega)]
  by_cases hc : c.toNat < 0x80
  · rw [encodeChar_ascii hc, List.mem_singleton] at hb
    have hcn : b.toNat = c.toNat := by rw [hb, toNat_toUInt8 (by omega)]
    exact hne (Char.toNat_inj.mp (hcn.symm.trans hbn))
  · have := le_of_mem_encodeChar (Nat.not_lt.mp hc) b hb
    omega

theorem encodeChar_ne_nil (c : Char) : encodeChar c ≠ [] := by
  rw [encodeChar]
  split
  · exact List.cons_ne_nil _ _
  · split
    · exact List.cons_ne_nil _ _
    · split
      · exact List.cons_ne_nil _ _
      · exact List.cons_ne_nil _ _

theorem head?_encode_ne {a c : Char} (ha : a.toNat < 0x80) (hne : c ≠ a) (s : List Char)
    (rest : Octets) : (encode (c :: s) ++ rest).head? ≠ some a.toUInt8 := by
  obtain ⟨b, t, hb⟩ := List.exists_cons_of_ne_nil (encodeChar_ne_nil c)
  have hfirst := ne_of_mem_encodeChar ha hne b (hb ▸ List.mem_cons_self)
  rw [encode_cons, hb]
  intro h
  exact hfirst (Option.some.inj h)

section Steps

theorem decodeFrom_cons (state : Option Partial) (b : UInt8) (rest : Octets) :
    decodeFrom state (b :: rest) =
      (step state b.toNat).1 ++ decodeFrom (step state b.toNat).2 rest := by
  cases state <;> rfl

theorem decodeFrom_middle {p : Partial} {n : Nat} (hn : n < 0x100) (hlow : p.low ≤ n)
    (hhigh : n ≤ p.high) (hmissing : p.missing ≠ 1) (rest : Octets) :
    decodeFrom (some p) (UInt8.ofNat n :: rest) =
      decodeFrom (some ⟨p.missing - 1, 0x80, 0xBF, p.scalar * 0x40 + n % 0x40⟩) rest := by
  have hb : (UInt8.ofNat n).toNat = n := by
    rw [UInt8.toNat_ofNat']
    omega
  rw [decodeFrom_cons, hb]
  simp only [step, hlow, hhigh, and_self, if_true, if_neg hmissing, List.nil_append]

theorem decodeFrom_last {p : Partial} {n : Nat} (hn : n < 0x100) (hlow : p.low ≤ n)
    (hhigh : n ≤ p.high) (hmissing : p.missing = 1) (rest : Octets) :
    decodeFrom (some p) (UInt8.ofNat n :: rest) =
      Char.ofNat (p.scalar * 0x40 + n % 0x40) :: decodeFrom none rest := by
  have hb : (UInt8.ofNat n).toNat = n := by
    rw [UInt8.toNat_ofNat']
    omega
  rw [decodeFrom_cons, hb]
  simp only [step, hlow, hhigh, and_self, if_true, if_pos hmissing, List.cons_append,
    List.nil_append]

theorem decodeFrom_open {n : Nat} {p : Partial} (hn : n < 0x100) (hhigh : 0x80 ≤ n)
    (hopen : openChar n = some p) (rest : Octets) :
    decodeFrom none (UInt8.ofNat n :: rest) = decodeFrom (some p) rest := by
  have hb : (UInt8.ofNat n).toNat = n := by
    rw [UInt8.toNat_ofNat']
    omega
  rw [decodeFrom_cons, hb]
  simp only [step, start, if_neg (Nat.not_lt.mpr hhigh), hopen, List.nil_append]

end Steps

theorem openChar_two {n : Nat} (hlow : 0x80 ≤ n) (hhigh : n < 0x800) :
    openChar (0xC0 + n / 0x40) = some ⟨1, 0x80, 0xBF, n / 0x40⟩ := by
  rw [openChar, if_pos (by omega), Nat.add_sub_cancel_left]

/-- The second octet of three lies in the range that the first leaves it. -/
theorem openChar_three {n : Nat} (hlow : 0x800 ≤ n) (hhigh : n < 0x10000)
    (hvalid : n < 0xD800 ∨ 0xDFFF < n) :
    ∃ low high, openChar (0xE0 + n / 0x1000) = some ⟨2, low, high, n / 0x1000⟩ ∧
      low ≤ 0x80 + n / 0x40 % 0x40 ∧ 0x80 + n / 0x40 % 0x40 ≤ high := by
  rw [openChar, if_neg (by omega)]
  by_cases h0 : n / 0x1000 = 0
  · rw [h0, if_pos rfl]
    exact ⟨0xA0, 0xBF, rfl, by omega, by omega⟩
  · rw [if_neg (by omega)]
    by_cases hD : n / 0x1000 = 0xD
    · rw [hD, if_pos rfl]
      exact ⟨0x80, 0x9F, rfl, by omega, by omega⟩
    · rw [if_neg (by omega), if_pos (by omega), Nat.add_sub_cancel_left]
      exact ⟨0x80, 0xBF, rfl, by omega, by omega⟩

theorem openChar_four {n : Nat} (hlow : 0x10000 ≤ n) (hhigh : n < 0x110000) :
    ∃ low high, openChar (0xF0 + n / 0x40000) = some ⟨3, low, high, n / 0x40000⟩ ∧
      low ≤ 0x80 + n / 0x1000 % 0x40 ∧ 0x80 + n / 0x1000 % 0x40 ≤ high := by
  rw [openChar, if_neg (by omega), if_neg (by omega), if_neg (by omega), if_neg (by omega)]
  by_cases h0 : n / 0x40000 = 0
  · rw [h0, if_pos rfl]
    exact ⟨0x90, 0xBF, rfl, by omega, by omega⟩
  · rw [if_neg (by omega)]
    by_cases h4 : n / 0x40000 = 4
    · rw [h4, if_pos rfl]
      exact ⟨0x80, 0x8F, rfl, by omega, by omega⟩
    · rw [if_neg (by omega), if_pos (by omega), Nat.add_sub_cancel_left]
      exact ⟨0x80, 0xBF, rfl, by omega, by omega⟩

theorem decodeFrom_encodeChar (c : Char) (rest : Octets) :
    decodeFrom none (encodeChar c ++ rest) = c :: decodeFrom none rest := by
  have hvalid : c.toNat < 0xD800 ∨ 0xDFFF < c.toNat ∧ c.toNat < 0x110000 := c.valid
  have hself : Char.ofNat c.toNat = c := Char.ofNat_toNat c
  rw [encodeChar]
  generalize c.toNat = n at hvalid hself
  split
  · rename_i h1
    have hb : (UInt8.ofNat n).toNat = n := by
      rw [UInt8.toNat_ofNat']
      omega
    simp only [List.cons_append, List.nil_append, decodeFrom_cons, step, start, hb, h1, if_true, hself]
  · split
    · have hopen := openChar_two (n := n) (by omega) (by omega)
      simp only [List.cons_append, List.nil_append]
      rw [decodeFrom_open (by omega) (by omega) hopen,
        decodeFrom_last (by omega) (by dsimp only; omega) (by dsimp only; omega) rfl]
      rw [show n / 0x40 * 0x40 + (0x80 + n % 0x40) % 0x40 = n by omega, hself]
    · split
      · obtain ⟨low, high, hopen, hlow, hhigh⟩ :=
          openChar_three (n := n) (by omega) (by omega) (by omega)
        simp only [List.cons_append, List.nil_append]
        rw [decodeFrom_open (by omega) (by omega) hopen,
          decodeFrom_middle (by omega) hlow hhigh (show 2 ≠ 1 by decide),
          decodeFrom_last (by omega) (by dsimp only; omega) (by dsimp only; omega) rfl]
        dsimp only
        rw [show (n / 0x1000 * 0x40 + (0x80 + n / 0x40 % 0x40) % 0x40) * 0x40 +
          (0x80 + n % 0x40) % 0x40 = n by omega, hself]
      · obtain ⟨low, high, hopen, hlow, hhigh⟩ := openChar_four (n := n) (by omega) (by omega)
        simp only [List.cons_append, List.nil_append]
        rw [decodeFrom_open (by omega) (by omega) hopen,
          decodeFrom_middle (by omega) hlow hhigh (show 3 ≠ 1 by decide),
          decodeFrom_middle (by omega) (by dsimp only; omega) (by dsimp only; omega)
            (show 3 - 1 ≠ 1 by decide),
          decodeFrom_last (by omega) (by dsimp only; omega) (by dsimp only; omega) rfl]
        dsimp only
        rw [show ((n / 0x40000 * 0x40 + (0x80 + n / 0x1000 % 0x40) % 0x40) * 0x40 +
          (0x80 + n / 0x40 % 0x40) % 0x40) * 0x40 + (0x80 + n % 0x40) % 0x40 = n by omega, hself]

theorem decode_encode (s : List Char) : decode (encode s) = s := by
  rw [decode]
  induction s with
  | nil => rfl
  | cons c s ih => rw [encode_cons, decodeFrom_encodeChar, ih]

theorem encodeChar_eq (c : Char) : encodeChar c = String.utf8EncodeChar c := by
  have hc := toNat_lt c
  have hval : c.val.toNat = c.toNat := rfl
  rw [encodeChar, String.utf8EncodeChar, hval]
  generalize c.toNat = n at hc
  by_cases h1 : n < 0x80
  · rw [if_pos h1, if_pos (by omega)]
  · by_cases h2 : n < 0x800
    · rw [if_neg h1, if_pos h2, if_neg (by omega), if_pos (by omega)]
      rw [show n / 64 % 32 + 192 = 0xC0 + n / 0x40 by omega, Nat.add_comm (n % 64)]
    · by_cases h3 : n < 0x10000
      · rw [if_neg h1, if_neg h2, if_pos h3, if_neg (by omega), if_neg (by omega), if_pos (by omega)]
        rw [show n / 4096 % 16 + 224 = 0xE0 + n / 0x1000 by omega, Nat.add_comm (n / 64 % 64),
          Nat.add_comm (n % 64)]
      · rw [if_neg h1, if_neg h2, if_neg h3, if_neg (by omega), if_neg (by omega), if_neg (by omega)]
        rw [show n / 262144 % 8 + 240 = 0xF0 + n / 0x40000 by omega, Nat.add_comm (n / 4096 % 64),
          Nat.add_comm (n / 64 % 64), Nat.add_comm (n % 64)]

theorem toByteArray_encode (s : List Char) : (encode s).toByteArray = s.utf8Encode := by
  rw [encode, funext encodeChar_eq]
  rfl

theorem encode_decode_eq_iff {octets : Octets} :
    encode (decode octets) = octets ↔ octets.toByteArray.IsValidUTF8 := by
  constructor
  · intro h
    exact .intro (decode octets) (by rw [← toByteArray_encode, h])
  · rintro ⟨s, hs⟩
    obtain rfl : octets = encode s := List.toByteArray_inj.mp (hs.trans (toByteArray_encode s).symm)
    rw [decode_encode]

end RangeSort.Utf8
