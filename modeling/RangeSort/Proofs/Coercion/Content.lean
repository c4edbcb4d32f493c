import RangeSort.Converter
import RangeSort.Proofs.Coercion.Field
import RangeSort.Proofs.Text.Utf8
import RangeSort.Proofs.Value.Levels

/-! The content of a value in a field of its own. An atom is found again without a warning. The
text of a value is its content too, but for octets. -/

namespace RangeSort

namespace Coerced

theorem integer_encode (target : Kind) {bits : Nat} (wrap : Int → Value) {n : Int}
    (hlow : -2 ^ bits ≤ n) (hhigh : n < 2 ^ bits) :
    integer target bits wrap (Utf8.encode (integerChars n)) = value (wrap n) := by
  simp only [integer, WholeNumber.read, Utf8.decode_encode, readInteger_integerChars hlow hhigh]

theorem number_encode (target : Kind) {f : BinaryFormat} (wrap : Nat → Value) {bits : Nat}
    {s : List Char} (h : f.Spelled bits s) : number target f wrap (Utf8.encode s) =
      value (wrap (if f.isNan bits then f.quietNan else bits)) := by
  simp only [number, Utf8.decode_encode, readField_spelled h]

end Coerced

theorem Kind.isComposite_of_isAtomic {kind : Kind} (h : kind.isAtomic = true) :
    kind.isComposite = false := by
  cases kind with
  | unknown | map | tuple | bag => cases h
  | boolean | int | long | float | double | bytes | text => rfl

namespace Value

/-- An atom is read from its content as from its text in a composite, unless it is octets. -/
theorem present_content {v : Value} (hatomic : v.kind.isAtomic = true) (h : v.kind ≠ .bytes) :
    Coerced.present v.content v.kind = Coerced.value v.reread := by
  cases v with
  | null | map | tuple | bag => cases hatomic
  | bytes => exact absurd rfl h
  | boolean b =>
    cases b with
    | true => rfl
    | false => rfl
  | int n =>
    rw [content, kind, Coerced.present, Coerced.integer_encode _ _ n.le_toInt n.toInt_lt,
      Int32.ofInt_toInt, reread]
  | long n =>
    rw [content, kind, Coerced.present, Coerced.integer_encode _ _ n.le_toInt n.toInt_lt,
      Int64.ofInt_toInt, reread]
  | float bits =>
    have hspelled : binary32.Spelled bits.toNat (floatChars bits) :=
      BinaryFormat.spelled_chars BinaryFormat.regular_binary32 bits.toNat_lt
    rw [content, kind, Coerced.present, Coerced.number_encode _ _ hspelled, reread]
    split
    · rfl
    · rw [UInt32.ofNat_toNat]
  | double bits =>
    have hspelled : binary64.Spelled bits.toNat (doubleChars bits) :=
      BinaryFormat.spelled_chars BinaryFormat.regular_binary64 bits.toNat_lt
    rw [content, kind, Coerced.present, Coerced.number_encode _ _ hspelled, reread]
    split
    · rfl
    · rw [UInt64.ofNat_toNat]
  | text s =>
    rw [content, kind, Coerced.present, reread, Utf8.decodeText, Utf8.decode_encode,
      String.ofList_toList]

theorem exists_eq_bytes {v : Value} (h : v.kind = .bytes) : ∃ b, v = .bytes b := by
  cases v with
  | bytes b => exact ⟨b, rfl⟩
  | _ => cases h

theorem eq_self_of_isAtomic {v w : Value} {level : Nat} (hatomic : v.kind.isAtomic = true)
    (h : v.Holds level w) : w = v := by
  cases h with
  | self => rfl
  | item | entry | field => cases hatomic

theorem present_content_of_steady {v : Value} (hatomic : v.kind.isAtomic = true)
    (h : v.kind = .bytes ∨ v.Steady) : Coerced.present v.content v.kind = Coerced.value v := by
  by_cases hbytes : v.kind = .bytes
  · obtain ⟨b, rfl⟩ := exists_eq_bytes hbytes
    rfl
  · have hsteady : v.reread = v := reread_eq_self fun level w hw => by
      rw [eq_self_of_isAtomic hatomic hw]
      exact h.resolve_left hbytes
    rw [present_content hatomic hbytes, hsteady]

end Value

/-- An atom is found again in a field of its own kind without a warning. -/
theorem Converter.coerce_content (c : Converter) {v : Value} (hatomic : v.kind.isAtomic = true)
    (h : v.kind = .bytes ∨ v.Steady) : c.coerce v.kind (some v.content) = (.ok v, c) := by
  rw [coerce, Kind.isComposite_of_isAtomic hatomic, if_neg Bool.false_ne_true,
    Value.present_content_of_steady hatomic h]
  simp only [keep, Coerced.value, List.append_nil]

theorem Converter.coerce_content_negative_zero :
    Kind.double.isAtomic = true ∧ (Value.double 0x8000000000000000).Steady ∧
      Converter.fresh.coerce .double (some (Utf8.encodeText "-0.0")) =
        (.ok (.double 0x8000000000000000), .fresh) := by
  have hsteady : (Value.double 0x8000000000000000).Steady := fun h => absurd h (by decide)
  have hcontent : (Value.double 0x8000000000000000).content = Utf8.encodeText "-0.0" := by
    decide +kernel
  have hcoerce := Converter.fresh.coerce_content (v := .double 0x8000000000000000) rfl (.inr hsteady)
  rw [hcontent] at hcoerce
  exact ⟨rfl, hsteady, hcoerce⟩

theorem Value.octets_of_kind_ne {v : Value} (h : v.kind ≠ .bytes) : v.octets = v.content := by
  cases v with
  | bytes b => exact absurd rfl h
  | null => rfl
  | boolean | int | double | map | bag => rw [octets, content, chars]
  | long | float | text => rw [octets, content, chars, if_neg Bool.false_ne_true]
  | tuple => rw [octets, content, chars, Row.chars]

/-- The text of a value is its content, unless that is octets that are no text. -/
theorem Value.octets_content (v : Value) :
    v.octets = Utf8.encode (Utf8.decode v.content) ∧ (v.kind ≠ .bytes → v.octets = v.content) ∧
      (v.octets = v.content ↔ v.content.toByteArray.IsValidUTF8) := by
  have htext : v.octets = Utf8.encode (Utf8.decode v.content) := by
    by_cases hbytes : v.kind = .bytes
    · obtain ⟨b, rfl⟩ := exists_eq_bytes hbytes
      rfl
    · rw [← octets_of_kind_ne hbytes, octets, Utf8.decode_encode]
  refine ⟨htext, octets_of_kind_ne, ?_⟩
  rw [htext]
  exact Utf8.encode_decode_eq_iff

theorem Value.octets_content_invalid :
    (Value.bytes [0xFF]).octets = [0xEF, 0xBF, 0xBD] ∧ (Value.bytes [0xFF]).content = [0xFF] :=
  ⟨by decide, rfl⟩

end RangeSort
