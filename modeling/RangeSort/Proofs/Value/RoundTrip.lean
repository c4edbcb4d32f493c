import RangeSort.Proofs.Value.Elements
import RangeSort.Proofs.Value.Levels
import RangeSort.Proofs.Value.Text

/-! The text of a composite is read back, unless something in it lies too deep. -/

namespace RangeSort

section Openers

variable {inner inBag : Reader Value}

theorem Reader.choose_eq_none {b : UInt8} (h1 : b ≠ '('.toUInt8) (h2 : b ≠ '\x7b'.toUInt8)
    (h3 : b ≠ '['.toUInt8) (h4 : b ≠ Mark.quote.toUInt8) : choose inner inBag b = none := by
  rw [choose, if_neg h1, if_neg h2, if_neg h3, if_neg h4]

theorem Reader.dispatch_token {s : Octets}
    (h : ∀ b ∈ s.head?, b ≠ '('.toUInt8 ∧ b ≠ '\x7b'.toUInt8 ∧ b ≠ '['.toUInt8 ∧
      b ≠ Mark.quote.toUInt8) :
    (dispatch inner inBag).run s = (token.map Atom.read).run s := by
  cases s with
  | nil => rfl
  | cons b s =>
    obtain ⟨h1, h2, h3, h4⟩ := h b rfl
    simp only [dispatch, List.head?_cons, Option.bind_some, choose_eq_none h1 h2 h3 h4]

theorem Reader.dispatch_tuple {s : Octets} (h : s.head? = some '('.toUInt8) :
    (dispatch inner inBag).run s = ((tuple inner).map .tuple).run s := by
  cases s with
  | nil => cases h
  | cons b s =>
    cases h
    rfl

/-- Where an unquoted value may stand, no octet opens anything else. -/
theorem Atom.ReadsAs.reads {s : List Char} {v : Value} (h : Atom.ReadsAs s v) :
    Reads (Reader.dispatch inner inBag) s (some v) := by
  intro rest hrest
  have hplain : ∀ c ∈ s, Mark.isDelimiter c = false := by
    intro c hc
    have hword := h.word c hc
    simp only [Mark.isDelimiter, Bool.or_eq_false_iff, beq_eq_false_iff_ne]
    refine ⟨⟨⟨⟨?_, ?_⟩, ?_⟩, ?_⟩, ?_⟩ <;> exact ne_of_class hword (by decide)
  have hopen : ∀ b ∈ (Utf8.encode s ++ rest).head?, b ≠ '('.toUInt8 ∧ b ≠ '\x7b'.toUInt8 ∧
      b ≠ '['.toUInt8 ∧ b ≠ Mark.quote.toUInt8 := by
    cases s with
    | nil =>
      intro b hb
      rcases (Reader.isDelimiter_iff b).mp (hrest b hb) with rfl | rfl | rfl | rfl | rfl <;> decide
    | cons c s =>
      intro b hb
      have hword := h.word c List.mem_cons_self
      have hne {a : Char} (ha : a.toNat < 0x80) (haw : isWordChar a = false) : b ≠ a.toUInt8 := by
        rintro rfl
        exact Utf8.head?_encode_ne ha (ne_of_class hword haw) s rest hb
      exact ⟨hne (by decide) (by decide), hne (by decide) (by decide), hne (by decide) (by decide),
        hne (by decide) (by decide)⟩
  rw [Reader.dispatch_token hopen]
  have htoken : Reader.token.run (Utf8.encode s ++ rest) = Reader.outcome (some s) rest :=
    Reader.token_run hplain hrest
  rw [Reader.map_run htoken, Option.map_some, h.read_eq]

theorem quotedChars_reads (s : List Char) :
    Reads (Reader.dispatch inner inBag) (quotedChars s) (some (.text (String.ofList s))) := by
  intro rest hrest
  rw [quotedChars, Utf8.encode_between (by decide) (by decide)]
  have hquoted : Reader.quoted.run (Utf8.encode (quotedBody s) ++ Mark.quote.toUInt8 :: rest) =
      Reader.outcome (some (String.ofList s)) rest := Reader.quoted_run s rest
  exact Reader.map_run hquoted

end Openers

section Composites

variable {p : Reader Value} {n : Nat}

theorem Reader.tuple_cons (s : Octets) :
    (tuple p).run ('('.toUInt8 :: s) = (tupleTail p).run s := by
  simp only [tuple, List.head?_cons, if_true, List.tail_cons]

theorem Reader.tupleTail_null (rest : Octets) :
    (tupleTail p).run (Utf8.encodeText "null)" ++ rest) = .ok ([.null], rest) := by
  have hprefix : (Utf8.encodeText "null)").isPrefixOf (Utf8.encodeText "null)" ++ rest) = true :=
    List.isPrefixOf_iff_prefix.mpr (List.prefix_append _ _)
  simp only [tupleTail, hprefix, if_true, List.drop_left]

theorem Reader.tupleTail_of_not_null {s : Octets}
    (h : ∀ rest, s ≠ Utf8.encodeText "null)" ++ rest) :
    (tupleTail p).run s = (elements ')'.toUInt8 .inTuple .openTuple p).run s := by
  have hprefix : ¬ (Utf8.encodeText "null)").isPrefixOf s = true := by
    intro hp
    obtain ⟨t, rfl⟩ := List.isPrefixOf_iff_prefix.mp hp
    exact h t rfl
  simp only [tupleTail]
  rw [if_neg hprefix]

theorem tuple_reads_loneNull :
    Reads (Reader.tuple p) "(null)".toList (some [.null]) := by
  intro rest _
  show (Reader.tuple p).run ('('.toUInt8 :: (Utf8.encodeText "null)" ++ rest)) = _
  rw [Reader.tuple_cons, Reader.tupleTail_null]
  rfl

theorem tuple_reads {r : Row} (h : isLoneNull r = false →
      ∀ v ∈ r, Reads p (v.chars true) (provided (v.Below n) v.reread)) :
    Reads (Reader.tuple p) r.chars (provided (Row.Below n r) (r.map Value.reread)) := by
  cases hlone : isLoneNull r with
  | true =>
    have hbelow : Row.Below n r := fun hr => absurd (hlone.symm.trans hr) (by decide)
    rw [provided_pos hbelow, Row.chars, tupleChars, if_pos hlone, eq_null_of_isLoneNull hlone]
    exact tuple_reads_loneNull
  | false =>
    intro rest _
    have hbelow : Row.Below n r ↔ ∀ v ∈ r, v.Below n := ⟨fun hr => hr hlone, fun hr _ => hr⟩
    have hsplit : Utf8.encode r.chars ++ rest = '('.toUInt8 ::
        (Utf8.encode (commaJoined (r.map (Value.chars true))) ++ ')'.toUInt8 :: rest) := by
      rw [Row.chars, tupleChars, hlone, if_neg Bool.false_ne_true, itemTexts_eq_map,
        Utf8.encode_between (by decide) (by decide)]
    have hhead := exists_items_eq_cons hlone
    have hfirst : (Utf8.encode (commaJoined (r.map (Value.chars true))) ++
        ')'.toUInt8 :: rest).head? ≠ some 'n'.toUInt8 := by
      by_cases hr : r = []
      · subst hr
        exact fun he => absurd (Option.some.inj he) (by decide)
      · obtain ⟨c, s, hs, -, hc⟩ := hhead hr
        rw [hs]
        exact Utf8.head?_encode_ne (by decide) hc s _
    have hopen : r ≠ [] → ∃ c s, commaJoined (r.map (Value.chars true)) = c :: s ∧ c ≠ ')' := by
      intro hr
      obtain ⟨c, s, hs, hc, -⟩ := hhead hr
      exact ⟨c, s, hs, hc⟩
    rw [hsplit, propext hbelow, ← mapM_provided]
    have hnull : ∀ t, Utf8.encode (commaJoined (r.map (Value.chars true))) ++ ')'.toUInt8 :: rest ≠
        Utf8.encodeText "null)" ++ t := by
      intro t ht
      rw [ht] at hfirst
      exact hfirst rfl
    rw [Reader.tuple_cons, Reader.tupleTail_of_not_null hnull]
    exact Reader.elements_run (by decide) (by decide) (by decide) (h hlone) hopen rest

theorem bag_reads {inner : Reader Value} {rows : List Row}
    (h : ∀ r ∈ rows, Reads (Reader.tuple p) r.chars (provided (Row.Below n r) (r.map Value.reread))) :
    Reads (Reader.dispatch inner p) ((Value.bag rows).chars true)
      (provided (∀ r ∈ rows, Row.Below n r) (Value.bag rows).reread) := by
  intro rest _
  rw [Value.chars, bagChars, rowTexts_eq_map, Utf8.encode_between (by decide) (by decide),
    Value.reread, rereadRows_eq_map, ← map_provided, ← mapM_provided]
  exact Reader.map_run
    (Reader.elements_run (by decide) (by decide) (by decide) h exists_rows_eq_cons rest)

theorem map_reads {inBag : Reader Value} {entries : List (String × Value)}
    (hascending : KeyMap.Ascending entries)
    (h : ∀ e ∈ entries, Reads p (e.2.chars true) (provided (e.2.Below n) e.2.reread)) :
    Reads (Reader.dispatch p inBag) ((Value.map entries).chars true)
      (provided (∀ e ∈ entries, e.2.Below n) (Value.map entries).reread) := by
  intro rest _
  have hentry : ∀ e ∈ entries, Reads (Reader.entry p) (keyChars e.1 ++ '#' :: e.2.chars true)
      (provided (e.2.Below n) (e.1, e.2.reread)) := by
    intro e he
    rw [← map_provided _ _ fun v => (e.1, v)]
    exact Reader.entry_reads (h e he)
  have hkeys : KeyMap.Ascending (entries.map fun e => (e.1, e.2.reread)) :=
    List.pairwise_map.mpr hascending
  rw [Value.chars, mapChars, entryTexts_eq_map, Utf8.encode_between (by decide) (by decide),
    Value.reread, rereadEntries_eq_map, ← hkeys.ofList_eq, ← map_provided, ← map_provided,
    ← mapM_provided]
  exact Reader.map_run (Reader.map_run
    (Reader.elements_run (by decide) (by decide) (by decide) hentry exists_entries_eq_cons rest))

end Composites

theorem Reader.value_succ (n : Nat) (s : Octets) :
    (value (n + 1)).run s = (dispatch (value n) (value (n - 1))).run s := by
  cases n with
  | zero => rfl
  | succ n => rfl

/-- Every map in the value has its keys in ascending order, as maps keep them. -/
def Value.Ordered (v : Value) : Prop :=
  ∀ level entries, v.Holds level (.map entries) → KeyMap.Ascending entries

theorem Value.reads_of_dispatch {v : Value}
    (h : ∀ n, Reads (Reader.dispatch (Reader.value n) (Reader.value (n - 1))) (v.chars true)
      (provided (v.Below (n + 1)) v.reread)) (n : Nat) :
    Reads (Reader.value n) (v.chars true) (provided (v.Below n) v.reread) := by
  intro rest hrest
  cases n with
  | zero =>
    rw [provided_neg v.not_below_zero]
    rfl
  | succ n =>
    rw [Reader.value_succ]
    exact h n rest hrest

theorem Value.reads_of_not_isComposite {v : Value} (hv : v.isComposite = false) (n : Nat) :
    Reads (Reader.value n) (v.chars true) (provided (v.Below n) v.reread) := by
  apply reads_of_dispatch
  intro n
  rw [provided_pos (below_succ hv n)]
  cases v.written with
  | atom h => exact h.reads
  | quoted s h hs =>
    rw [h, hs]
    exact quotedChars_reads s
  | bracketed hcomposite => exact absurd (hv.symm.trans hcomposite) Bool.false_ne_true

/-- With room for `n` levels, a value is read back if everything in it lies above that. -/
theorem Value.reads {v : Value} (hv : v.Ordered) (n : Nat) :
    Reads (Reader.value n) (v.chars true) (provided (v.Below n) v.reread) := by
  induction v generalizing n with
  | null | boolean | int | long | float | double | bytes | text =>
    exact reads_of_not_isComposite rfl n
  | map entries ih =>
    apply reads_of_dispatch
    intro n
    rw [propext below_map]
    apply map_reads (hv 0 entries (.self _))
    intro e he
    exact ih e he (fun level m hm => hv (level + 1) m (.entry he hm)) n
  | tuple items ih =>
    apply reads_of_dispatch
    intro n rest hrest
    have hitems : isLoneNull items = false → ∀ v ∈ items,
        Reads (Reader.value n) (v.chars true) (provided (v.Below n) v.reread) := by
      intro hlone v hmem
      exact ih v hmem (fun level m hm => hv (level + 1) m (.item hlone hmem hm)) n
    obtain ⟨s, hs⟩ := exists_row_eq_cons items
    have hopen : (Utf8.encode (Row.chars items) ++ rest).head? = some '('.toUInt8 := by
      rw [hs]
      rfl
    rw [propext below_tuple, reread, rereadItems_eq_map, ← map_provided]
    show (Reader.dispatch _ _).run (Utf8.encode (Row.chars items) ++ rest) = _
    rw [Reader.dispatch_tuple hopen]
    exact Reader.map_run (tuple_reads hitems rest hrest)
  | bag rows ih =>
    apply reads_of_dispatch
    intro n
    rw [propext below_bag]
    apply bag_reads
    intro r hr
    apply tuple_reads
    intro hlone v hmem
    exact ih r hr v hmem (fun level m hm => hv (level + 2) m (.field hr hlone hmem hm)) (n - 1)

theorem Value.octets_of_isComposite {v : Value} (h : v.isComposite = true) :
    v.octets = Utf8.encode (v.chars true) := by
  cases v with
  | map | tuple | bag => rfl
  | null | boolean | int | long | float | double | bytes | text => cases h

/-- Reading the text of a composite succeeds exactly when everything in it lies at the last
level or above. What is read then differs from it in octets and patterns that are no number. -/
theorem Value.read_octets {v : Value} (hcomposite : v.isComposite = true) (hordered : v.Ordered) :
    ((∀ level w, v.Holds level w → level ≤ maxLevel) → Value.read v.octets = .ok v.reread) ∧
      ((∃ level w, v.Holds level w ∧ maxLevel < level) → Value.read v.octets = .error .tooDeep) ∧
      ((∀ level w, v.Holds level w → w.Steady) → v.reread = v) := by
  have hrun := reads hordered (maxLevel + 1) [] bounded_nil
  rw [List.append_nil] at hrun
  rw [octets_of_isComposite hcomposite, read]
  refine ⟨fun hlevels => ?_, fun hdeep => ?_, reread_eq_self⟩
  · have hbelow : v.Below (maxLevel + 1) := fun level w hw => Nat.lt_succ_of_le (hlevels level w hw)
    rw [hrun, provided_pos hbelow]
    rfl
  · have hbelow : ¬ v.Below (maxLevel + 1) := by
      intro h
      obtain ⟨level, w, hw, hlt⟩ := hdeep
      exact absurd (h level w hw) (Nat.not_lt.mpr hlt)
    rw [hrun, provided_neg hbelow]
    rfl

/-- An empty key, and one that is a quote and a separator. -/
def quotedMap : Value :=
  .map [("", .bytes [0xFF]), ("\x27#", .bag [[.null]])]

theorem holds_quotedMap {level : Nat} {w : Value} (h : quotedMap.Holds level w) :
    level ≤ 1 ∧ (w = quotedMap ∨ w.kind ≠ .map) := by
  cases h with
  | self => exact ⟨Nat.zero_le 1, .inl rfl⟩
  | entry he h =>
    rcases List.mem_cons.mp he with rfl | he
    · cases h with
      | self => exact ⟨Nat.le_refl 1, .inr nofun⟩
    · cases List.mem_singleton.mp he
      cases h with
      | self => exact ⟨Nat.le_refl 1, .inr nofun⟩
      | field hr hlone =>
        cases List.mem_singleton.mp hr
        cases hlone

theorem Value.read_octets_quotedMap :
    quotedMap.isComposite = true ∧ quotedMap.Ordered ∧
      Value.read quotedMap.octets =
        .ok (.map [("", .text (String.singleton Utf8.replacement)), ("\x27#", .bag [[.null]])]) := by
  have hordered : quotedMap.Ordered := by
    intro level entries h
    rcases (holds_quotedMap h).2 with he | hkind
    · cases he
      exact List.pairwise_pair.mpr (by decide)
    · exact absurd rfl hkind
  have hlevels : ∀ level w, quotedMap.Holds level w → level ≤ maxLevel :=
    fun level w h => Nat.le_trans (holds_quotedMap h).1 (by decide)
  exact ⟨rfl, hordered, (Value.read_octets rfl hordered).1 hlevels⟩

end RangeSort
