import RangeSort.Proofs.Value.Atom
import RangeSort.Proofs.Value.Levels

/-! The texts of nested values, and how they begin. -/

namespace RangeSort

theorem itemTexts_eq_map (items : List Value) :
    itemTexts items = items.map (Value.chars true) := by
  induction items with
  | nil => rfl
  | cons v vs ih => rw [itemTexts, ih, List.map_cons]

theorem rowTexts_eq_map (rows : List Row) : rowTexts rows = rows.map Row.chars := by
  induction rows with
  | nil => rfl
  | cons r rs ih =>
    rw [rowTexts, ih, List.map_cons]
    rfl

theorem entryTexts_eq_map (entries : List (String × Value)) :
    entryTexts entries = entries.map fun e => keyChars e.1 ++ '#' :: e.2.chars true := by
  induction entries with
  | nil => rfl
  | cons e es ih =>
    obtain ⟨k, v⟩ := e
    rw [entryTexts, entryText, ih, List.map_cons]

theorem exists_row_eq_cons (r : Row) : ∃ s, r.chars = '(' :: s := by
  rw [Row.chars, tupleChars]
  split
  · exact ⟨"null)".toList, rfl⟩
  · exact ⟨_, rfl⟩

/-- A nested value is written as an atom, in quotes or in brackets. -/
inductive Value.Written (v : Value) : Prop
  | atom (h : Atom.ReadsAs (v.chars true) v.reread)
  | quoted (s : List Char) (h : v.chars true = quotedChars s)
      (hs : v.reread = .text (String.ofList s))
  | bracketed (hv : v.isComposite = true) (c : Char) (s : List Char) (h : v.chars true = c :: s)
      (hc : c ∈ ['(', '\x7b', '['])

theorem Value.written (v : Value) : v.Written := by
  cases v with
  | null => exact .atom Atom.readsAs_null
  | boolean b => exact .atom (Atom.readsAs_boolean b)
  | int n => exact .atom (Atom.readsAs_int n)
  | long n => exact .atom (Atom.readsAs_long n)
  | float bits => exact .atom (Atom.readsAs_float bits)
  | double bits => exact .atom (Atom.readsAs_double bits)
  | bytes b => exact .quoted _ rfl rfl
  | text s =>
    refine .quoted s.toList rfl ?_
    rw [String.ofList_toList, reread]
  | map entries => exact .bracketed rfl '[' _ rfl (by decide)
  | tuple items =>
    obtain ⟨s, hs⟩ := exists_row_eq_cons items
    exact .bracketed rfl '(' s hs (by decide)
  | bag rows => exact .bracketed rfl '\x7b' _ rfl (by decide)

/-- No text of an item is mistaken for a closing parenthesis or for the lone null. -/
theorem Value.head_chars (v : Value) : ∀ c ∈ (v.chars true).head?, c ≠ ')' ∧ c ≠ 'n' := by
  intro c hc
  cases v.written with
  | atom h =>
    exact ⟨ne_of_class (h.word c (List.mem_of_mem_head? hc)) (by decide), h.head_ne c hc⟩
  | quoted s h =>
    rw [h] at hc
    cases hc
    decide
  | bracketed _ d s h hd =>
    rw [h] at hc
    cases hc
    constructor <;> rintro rfl <;> exact absurd hd (by decide)

theorem Value.chars_ne_nil {v : Value} (hv : v ≠ .null) : v.chars true ≠ [] := by
  intro hnil
  cases v.written with
  | atom h =>
    rw [hnil] at h
    have hnull : v.reread = .null := h.read_eq.symm
    cases v with
    | null => exact hv rfl
    | boolean | int | long | float | double | bytes | text | map | tuple | bag => cases hnull
  | quoted s h =>
    rw [h] at hnil
    cases hnil
  | bracketed _ c s h =>
    rw [h] at hnil
    cases hnil

theorem exists_commaJoined_eq_cons {P : Char → Prop} (hcomma : P ',') {texts : List (List Char)}
    (hne : texts ≠ []) (hlone : texts ≠ [[]]) (h : ∀ s ∈ texts, ∀ c ∈ s.head?, P c) :
    ∃ c s, commaJoined texts = c :: s ∧ P c := by
  match texts with
  | [] => exact absurd rfl hne
  | [[]] => exact absurd rfl hlone
  | [c :: s] => exact ⟨c, s, rfl, h _ List.mem_cons_self c rfl⟩
  | [] :: t :: rest => exact ⟨',', _, rfl, hcomma⟩
  | (c :: s) :: t :: rest => exact ⟨c, _, rfl, h _ List.mem_cons_self c rfl⟩

/-- Items other than a lone null have a text that is neither empty nor mistaken. -/
theorem exists_items_eq_cons {items : List Value} (hlone : isLoneNull items = false)
    (hne : items ≠ []) :
    ∃ c s, commaJoined (items.map (Value.chars true)) = c :: s ∧ c ≠ ')' ∧ c ≠ 'n' := by
  apply exists_commaJoined_eq_cons (P := fun c => c ≠ ')' ∧ c ≠ 'n') (by decide)
  · exact fun h => hne (List.map_eq_nil_iff.mp h)
  · intro h
    obtain ⟨v, rfl, hv⟩ := List.map_eq_singleton_iff.mp h
    by_cases hnull : v = .null
    · subst hnull
      cases hlone
    · exact v.chars_ne_nil hnull hv
  · intro s hs
    obtain ⟨v, -, rfl⟩ := List.mem_map.mp hs
    exact v.head_chars

theorem exists_rows_eq_cons {rows : List Row} (hne : rows ≠ []) :
    ∃ c s, commaJoined (rows.map Row.chars) = c :: s ∧ c ≠ '\x7d' := by
  apply exists_commaJoined_eq_cons (P := fun c => c ≠ '\x7d') (by decide)
  · exact fun h => hne (List.map_eq_nil_iff.mp h)
  · intro h
    obtain ⟨r, -, hr⟩ := List.map_eq_singleton_iff.mp h
    obtain ⟨s, hs⟩ := exists_row_eq_cons r
    rw [hs] at hr
    cases hr
  · intro s hs c hc
    obtain ⟨r, -, rfl⟩ := List.mem_map.mp hs
    obtain ⟨t, ht⟩ := exists_row_eq_cons r
    rw [ht] at hc
    cases hc
    decide

theorem head_key (k : String) (s : List Char) :
    ∀ c ∈ (keyChars k ++ '#' :: s).head?, c ≠ ']' := by
  intro c hc
  rw [keyChars] at hc
  split at hc
  · cases hc
    decide
  · rename_i hbare
    cases hk : k.toList with
    | nil =>
      rw [hk] at hc
      cases hc
      decide
    | cons d t =>
      rw [hk] at hc hbare
      cases hc
      rintro rfl
      exact hbare (by simp [Mark.isDelimiter])

theorem exists_entries_eq_cons {entries : List (String × Value)} (hne : entries ≠ []) :
    ∃ c s, commaJoined (entries.map fun e => keyChars e.1 ++ '#' :: e.2.chars true) = c :: s ∧
      c ≠ ']' := by
  apply exists_commaJoined_eq_cons (P := fun c => c ≠ ']') (by decide)
  · exact fun h => hne (List.map_eq_nil_iff.mp h)
  · intro h
    obtain ⟨e, -, he⟩ := List.map_eq_singleton_iff.mp h
    simp at he
  · intro s hs
    obtain ⟨e, -, rfl⟩ := List.mem_map.mp hs
    exact head_key e.1 _

end RangeSort
