import RangeSort.Proofs.Runs
import RangeSort.Proofs.Text.Utf8
import RangeSort.Value.Reader

/-! Tokens and quoted text are read back, whatever characters they have. -/

namespace RangeSort

/-- What may follow a value: the end or a delimiter. -/
def Bounded (rest : Octets) : Prop :=
  ∀ b ∈ rest.head?, Reader.isDelimiter b = true

theorem bounded_nil : Bounded [] := nofun

theorem bounded_cons {b : UInt8} (h : Reader.isDelimiter b = true) (rest : Octets) :
    Bounded (b :: rest) := by
  intro c hc
  cases hc
  exact h

namespace Reader

theorem isDelimiter_iff (b : UInt8) : isDelimiter b = true ↔
    b = ','.toUInt8 ∨ b = ')'.toUInt8 ∨ b = '\x7d'.toUInt8 ∨ b = ']'.toUInt8 ∨ b = '#'.toUInt8 := by
  have hchar (c : Char) (hc : c.toNat < 0x80) : Char.ofNat b.toNat = c ↔ b = c.toUInt8 := by
    have hb := b.toNat_lt
    rw [← Char.toNat_inj, Utf8.toNat_ofNat (by omega), ← UInt8.toNat_inj,
      Utf8.toNat_toUInt8 (by omega)]
  simp only [isDelimiter, Mark.isDelimiter, Bool.or_eq_true, beq_iff_eq, or_assoc]
  rw [hchar ',' (by decide), hchar ')' (by decide), hchar '\x7d' (by decide),
    hchar ']' (by decide), hchar '#' (by decide)]

theorem not_isDelimiter_of_mem_encode {s : List Char} (h : ∀ c ∈ s, Mark.isDelimiter c = false) :
    ∀ b ∈ Utf8.encode s, isDelimiter b = false := by
  intro b hb
  obtain ⟨c, hc, hb⟩ := List.mem_flatMap.mp hb
  have hplain := h c hc
  simp only [Mark.isDelimiter, Bool.or_eq_false_iff, beq_eq_false_iff_ne, ne_eq] at hplain
  obtain ⟨⟨⟨⟨h1, h2⟩, h3⟩, h4⟩, h5⟩ := hplain
  rw [← Bool.not_eq_true, isDelimiter_iff]
  rintro (he | he | he | he | he)
  · exact Utf8.ne_of_mem_encodeChar (by decide) h1 b hb he
  · exact Utf8.ne_of_mem_encodeChar (by decide) h2 b hb he
  · exact Utf8.ne_of_mem_encodeChar (by decide) h3 b hb he
  · exact Utf8.ne_of_mem_encodeChar (by decide) h4 b hb he
  · exact Utf8.ne_of_mem_encodeChar (by decide) h5 b hb he

/-- An unquoted run ends where it is bounded. -/
theorem bare_run {s rest : Octets} (h : ∀ b ∈ s, isDelimiter b = false) (hrest : Bounded rest) :
    (s ++ rest).takeWhile (fun b => !isDelimiter b) = s ∧
      (s ++ rest).dropWhile (fun b => !isDelimiter b) = rest := by
  have hs : ∀ b ∈ s, (!isDelimiter b) = true := by
    intro b hb
    rw [h b hb]
    rfl
  have hstop : ∀ b ∈ rest.head?, (!isDelimiter b) = false := by
    intro b hb
    rw [hrest b hb]
    rfl
  exact ⟨takeWhile_run hs hstop, dropWhile_run hs hstop⟩

theorem token_run {s : List Char} (h : ∀ c ∈ s, Mark.isDelimiter c = false) {rest : Octets}
    (hrest : Bounded rest) : token.run (Utf8.encode s ++ rest) = .ok (s, rest) := by
  obtain ⟨htake, hdrop⟩ := bare_run (not_isDelimiter_of_mem_encode h) hrest
  simp only [token, htake, hdrop, Utf8.decode_encode]

theorem unquote_quote (s : Octets) : unquote (Mark.quote.toUInt8 :: s) = some ([], s) := by
  rw [unquote.eq_def]
  rfl

theorem unquote_escape (c : UInt8) (s : Octets) :
    unquote (Mark.escape.toUInt8 :: c :: s) =
      (unquote s).map fun (body, rest) => (c :: body, rest) := by
  rw [unquote.eq_def]
  rfl

theorem unquote_plain {s : Octets} (h : ∀ b ∈ s, b ≠ Mark.quote.toUInt8 ∧ b ≠ Mark.escape.toUInt8)
    (t : Octets) : unquote (s ++ t) = (unquote t).map fun (body, rest) => (s ++ body, rest) := by
  induction s with
  | nil => simp
  | cons b s ih =>
    obtain ⟨hquote, hescape⟩ := h b List.mem_cons_self
    rw [List.cons_append, unquote.eq_def]
    dsimp only
    rw [if_neg hquote, if_neg hescape, ih fun c hc => h c (List.mem_cons_of_mem b hc),
      Option.map_map]
    rfl

theorem unquote_encode (s : List Char) (rest : Octets) :
    unquote (Utf8.encode (quotedBody s) ++ Mark.quote.toUInt8 :: rest) =
      some (Utf8.encode s, rest) := by
  induction s with
  | nil => exact unquote_quote rest
  | cons c s ih =>
    rw [quotedBody]
    split
    · rename_i hc
      have hascii : c.toNat < 0x80 := by rcases hc with rfl | rfl <;> decide
      rw [Utf8.encode_cons, Utf8.encode_cons, Utf8.encode_cons, Utf8.encodeChar_ascii hascii,
        Utf8.encodeChar_ascii (by decide : Mark.escape.toNat < 0x80)]
      simp only [List.cons_append, List.nil_append]
      rw [unquote_escape, ih]
      rfl
    · rename_i hc
      rw [not_or] at hc
      have hplain : ∀ b ∈ Utf8.encodeChar c, b ≠ Mark.quote.toUInt8 ∧ b ≠ Mark.escape.toUInt8 :=
        fun b hb => ⟨Utf8.ne_of_mem_encodeChar (by decide) hc.1 b hb,
          Utf8.ne_of_mem_encodeChar (by decide) hc.2 b hb⟩
      rw [Utf8.encode_cons, Utf8.encode_cons, List.append_assoc, unquote_plain hplain, ih]
      rfl

theorem quoted_run (s : List Char) (rest : Octets) :
    quoted.run (Utf8.encode (quotedBody s) ++ Mark.quote.toUInt8 :: rest) =
      .ok (String.ofList s, rest) := by
  simp only [quoted, unquote_encode, Utf8.decodeText, Utf8.decode_encode]

end Reader

end RangeSort
