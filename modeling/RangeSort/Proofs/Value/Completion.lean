import RangeSort.Proofs.Value.Settled

/-! Where reading stops with a fault, what comes before can be completed to the text of a value,
and what is there makes that impossible. -/

namespace RangeSort

variable {α β : Type}

def isOpening (b : UInt8) : Bool :=
  b == '('.toUInt8 || b == '\x7b'.toUInt8 || b == '['.toUInt8

def openings (s : Octets) : Nat :=
  s.countP isOpening

theorem openings_cons {b : UInt8} (hb : isOpening b = true) (s : Octets) :
    openings (b :: s) = openings s + 1 :=
  List.countP_cons_of_pos hb

theorem openings_quote (s : Octets) : openings (Mark.quote.toUInt8 :: s) = openings s :=
  List.countP_cons_of_neg (by decide)

theorem openings_le (t : Octets) (b : UInt8) (s : Octets) : openings s ≤ openings (t ++ b :: s) :=
  ((List.suffix_cons b s).trans (List.suffix_append t _)).sublist.countP_le

/-- Texts of `D` with commas between them. -/
def Joins (D : Octets → α → Prop) (s : Octets) (as : List α) : Prop :=
  ∃ parts : List (Octets × α), parts ≠ [] ∧ (∀ p ∈ parts, D p.1 p.2) ∧
    joined (parts.map Prod.fst) = s ∧ parts.map Prod.snd = as

section Joins

variable {D : Octets → α → Prop} {s t : Octets} {a : α} {as : List α}

theorem Joins.single (h : D s a) : Joins D s [a] :=
  ⟨[(s, a)], List.cons_ne_nil _ _, List.forall_mem_singleton.mpr h, joined_singleton s, rfl⟩

theorem Joins.cons (h : D s a) (ht : Joins D t as) :
    Joins D (s ++ ','.toUInt8 :: t) (a :: as) := by
  obtain ⟨parts, hne, hparts, rfl, rfl⟩ := ht
  have htexts : parts.map Prod.fst ≠ [] := by simpa using hne
  have hcons := joined_cons_append s htexts []
  rw [List.append_nil, List.append_nil] at hcons
  exact ⟨(s, a) :: parts, List.cons_ne_nil _ _, List.forall_mem_cons.mpr ⟨h, hparts⟩, hcons, rfl⟩

end Joins

/-- Reading stops with a fault, and what comes before it begins some text of `D`. -/
inductive Breaks (D : Octets → α → Prop) : Octets → Stop → Prop
  | mk {u t rest : Octets} {cause : Fault} {a : α} (h : D (u ++ t) a) :
      Breaks D (u ++ rest) (.fault cause rest)

theorem Breaks.within {D : Octets → α → Prop} {E : Octets → β → Prop} {s : Octets} {stop : Stop}
    (h : Breaks D s stop) (v : Octets) (hE : ∀ t a, D t a → ∃ w b, E (v ++ t ++ w) b) :
    Breaks E (v ++ s) stop := by
  cases h with
  | @mk u t rest cause a h =>
    obtain ⟨w, b, hb⟩ := hE _ _ h
    rw [← List.append_assoc]
    exact .mk (t := t ++ w) (by simpa using hb)

/-- Unless there are too many openings in the input, reading can only stop with a fault, and what
comes before it is the beginning of some text of `D`. -/
structure Viable (level : Nat) (p : Reader α) (D : Octets → α → Prop) : Prop
    extends Recognizes p D where
  breaks {s : Octets} {stop : Stop} : level + openings s ≤ maxLevel → p.run s = .error stop →
    Breaks D s stop

namespace Reader

theorem exists_isQuoted {s : Octets} (h : unquote s = none) : ∃ t body, IsQuoted (s ++ t) body := by
  fun_induction unquote s with
  | case1 => exact ⟨_, _, .close⟩
  | case2 => cases h
  | case3 => exact ⟨_, _, .escaped Mark.quote.toUInt8 .close⟩
  | case4 c s hescape ih =>
    obtain ⟨t, body, ht⟩ := ih (Option.map_eq_none_iff.mp h)
    exact ⟨t, _, .escaped c ht⟩
  | case5 b s hquote hescape ih =>
    obtain ⟨t, body, ht⟩ := ih (Option.map_eq_none_iff.mp h)
    exact ⟨t, _, .plain hquote hescape ht⟩

theorem viable_quoted (level : Nat) :
    Viable level quoted fun s text => ∃ body, IsQuoted s body ∧ Utf8.decodeText body = text where
  complete h rest _ := by
    obtain ⟨body, hbody, rfl⟩ := h
    exact quoted_run_of_isQuoted hbody rest
  sound hrun := by
    obtain ⟨t, body, hs, hbody, rfl⟩ := isQuoted_of_quoted_run hrun
    exact ⟨t, hs, body, hbody, rfl⟩
  breaks {s stop} _ hrun := by
    simp only [quoted] at hrun
    split at hrun
    · cases hrun
      obtain ⟨t, body, ht⟩ := exists_isQuoted ‹_›
      rw [← s.append_nil]
      exact .mk ⟨body, ht, rfl⟩
    · cases hrun

theorem viable_key (level : Nat) : Viable level key IsKey where
  toRecognizes := recognizes_key
  breaks {s stop} hs hrun := by
    by_cases hquote : s.head? = some Mark.quote.toUInt8
    · obtain ⟨s, rfl⟩ := List.head?_eq_some_iff.mp hquote
      rw [openings_quote] at hs
      rw [key_quoted] at hrun
      refine ((viable_quoted level).breaks hs hrun).within [Mark.quote.toUInt8] ?_
      rintro t _ ⟨body, ht, rfl⟩
      exact ⟨[], _, by simpa using .quoted ht⟩
    · rw [key_bare hquote] at hrun
      cases hrun

theorem viable_entry {p : Reader Value} {level : Nat} (h : Viable level p (IsValue level)) :
    Viable level (entry p) (IsEntry level) where
  toRecognizes := recognizes_entry h.toRecognizes
  breaks {s stop} hs hrun := by
    -- A key is completed with the separator and nothing after it, which stands for null.
    have hnull : IsValue level [] .null := .token (by omega) (.of_all rfl) nofun
    cases hkey : key.run s with
    | error stop =>
      rw [entry_error hkey] at hrun
      cases hrun
      refine ((viable_key level).breaks hs hkey).within [] fun t k hk => ?_
      exact ⟨['#'.toUInt8], (k, .null), .mk hk hnull⟩
    | ok out =>
      obtain ⟨k, left⟩ := out
      obtain ⟨u, rfl, hk⟩ := recognizes_key.sound hkey
      by_cases hleft : left.head? = some '#'.toUInt8
      · obtain ⟨left, rfl⟩ := List.head?_eq_some_iff.mp hleft
        have hopenings := openings_le u '#'.toUInt8 left
        rw [entry_separated hkey, map_eq_error] at hrun
        have hbreaks := (h.breaks (by omega) hrun).within (u ++ ['#'.toUInt8])
          (E := IsEntry level) fun t v hv => ⟨[], (k, v), by simpa using .mk hk hv⟩
        simpa using hbreaks
      · rw [entry_unseparated hkey hleft] at hrun
        cases hrun
        exact .mk (t := ['#'.toUInt8]) (.mk hk hnull)

section Elements

variable {level : Nat} {close : UInt8} {unexpected : UInt8 → Fault} {unclosed : Fault}
  {item : Reader α} {D : Octets → α → Prop}

theorem breaks_runUntil (h : Viable level item D) {s : Octets} {stop : Stop}
    (hs : level + openings s ≤ maxLevel)
    (hrun : runUntil close unexpected unclosed item s = .error stop) :
    Breaks (Joins D) s stop := by
  fun_induction runUntil close unexpected unclosed item s with
  | case1 s stop hitem =>
    cases hrun
    refine (h.breaks hs hitem).within [] fun t a ha => ?_
    exact ⟨[], [a], by simpa using .single ha⟩
  | case2 s a hitem =>
    cases hrun
    obtain ⟨u, rfl, ha⟩ := h.sound hitem
    exact .mk (t := []) (by simpa using .single ha)
  | case3 s a left stop hmore hitem ih =>
    cases hrun
    obtain ⟨u, rfl, ha⟩ := h.sound hitem
    have hopenings := openings_le u ','.toUInt8 left
    have hbreaks := (ih (by omega) hmore).within (u ++ [','.toUInt8])
      (E := Joins D) fun t as has => ⟨[], a :: as, by simpa using .cons ha has⟩
    simpa using hbreaks
  | case4 => cases hrun
  | case5 => cases hrun
  | case6 s a b left hitem =>
    cases hrun
    obtain ⟨u, rfl, ha⟩ := h.sound hitem
    exact .mk (t := []) (by simpa using .single ha)

theorem breaks_elements (h : Viable level item D) {s : Octets} {stop : Stop}
    (hs : level + openings s ≤ maxLevel)
    (hrun : (elements close unexpected unclosed item).run s = .error stop) :
    Breaks (Joins D) s stop := by
  simp only [elements] at hrun
  split at hrun
  · cases hrun
  · exact breaks_runUntil h hs hrun

end Elements

section Composites

variable {p inner inBag : Reader Value} {level : Nat}

/-- Values between commas make a tuple, whichever way its text is read. -/
theorem exists_isTuple {s : Octets} {vs : List Value} (h : Joins (IsValue (level + 1)) s vs) :
    ∃ row, IsTuple level ('('.toUInt8 :: (s ++ [')'.toUInt8])) row := by
  obtain ⟨parts, -, hparts, rfl, -⟩ := h
  by_cases hempty : joined (parts.map Prod.fst) = []
  · rw [hempty]
    exact ⟨[], .empty level⟩
  · by_cases hnull : joined (parts.map Prod.fst) = Utf8.encodeText "null"
    · rw [hnull]
      exact ⟨[.null], .null level⟩
    · exact ⟨_, .items parts hempty hnull hparts⟩

theorem viable_tuple (h : Viable (level + 1) p (IsValue (level + 1))) :
    Viable level (tuple p) (IsTuple level) where
  toRecognizes := recognizes_tuple h.toRecognizes
  breaks {s stop} hs hrun := by
    by_cases hopen : s.head? = some '('.toUInt8
    · obtain ⟨s, rfl⟩ := List.head?_eq_some_iff.mp hopen
      rw [openings_cons rfl] at hs
      rw [tuple_cons] at hrun
      by_cases hnull : ∃ t, s = Utf8.encodeText "null)" ++ t
      · obtain ⟨t, rfl⟩ := hnull
        rw [tupleTail_null] at hrun
        cases hrun
      · rw [tupleTail_of_not_null (not_exists.mp hnull)] at hrun
        refine (breaks_elements h (by omega) hrun).within ['('.toUInt8] fun t vs hvs => ?_
        exact ⟨[')'.toUInt8], exists_isTuple hvs⟩
    · rw [tuple_of_head?_ne hopen] at hrun
      cases hrun
      exact .mk (u := []) (.empty level)

theorem viable_dispatch (hinner : Viable (level + 1) inner (IsValue (level + 1)))
    (hinBag : Viable (level + 2) inBag (IsValue (level + 2))) (hlevel : level ≤ maxLevel) :
    Viable level (dispatch inner inBag) (IsValue level) where
  toRecognizes := recognizes_dispatch hlevel hinner.toRecognizes hinBag.toRecognizes
  breaks {s stop} hs hrun := by
    by_cases hopener : ∀ b ∈ s.head?, ¬ IsOpener b
    · rw [dispatch_of_not_isOpener hopener] at hrun
      cases hrun
    · simp only [not_forall, not_not, Option.mem_def, List.head?_eq_some_iff] at hopener
      obtain ⟨b, ⟨s, rfl⟩, hb⟩ := hopener
      rcases hb with rfl | rfl | rfl | rfl
      · rw [dispatch_tuple rfl, map_eq_error] at hrun
        refine ((viable_tuple hinner).breaks hs hrun).within [] fun t row hrow => ?_
        exact ⟨[], _, by simpa using .tuple hlevel hrow⟩
      · rw [openings_cons rfl] at hs
        rw [dispatch_of_choose rfl, map_eq_error] at hrun
        refine (breaks_elements (viable_tuple hinBag) (by omega) hrun).within ['\x7b'.toUInt8] ?_
        rintro _ _ ⟨parts, -, hparts, rfl, -⟩
        exact ⟨['\x7d'.toUInt8], _, .bag hlevel parts hparts⟩
      · rw [openings_cons rfl] at hs
        rw [dispatch_of_choose rfl, map_eq_error, mapTail, map_eq_error] at hrun
        refine (breaks_elements (viable_entry hinner) (by omega) hrun).within ['['.toUInt8] ?_
        rintro _ _ ⟨parts, -, hparts, rfl, -⟩
        exact ⟨[']'.toUInt8], _, .map hlevel parts hparts⟩
      · rw [openings_quote] at hs
        rw [dispatch_of_choose rfl, map_eq_error] at hrun
        refine ((viable_quoted level).breaks hs hrun).within [Mark.quote.toUInt8] ?_
        rintro t _ ⟨body, ht, rfl⟩
        exact ⟨[], _, by simpa using .quoted hlevel ht⟩

theorem viable_value (n level : Nat) (h : n = maxLevel + 1 - level) :
    Viable level (value n) (IsValue level) := by
  induction n using Nat.strongRecOn generalizing level with
  | _ n ih =>
    cases n with
    | zero => exact ⟨recognizes_value 0 level h, fun hs => by omega⟩
    | succ n =>
      have hinner := ih n (by omega) (level + 1) (by omega)
      have hinBag := ih (n - 1) (by omega) (level + 2) (by omega)
      have hdispatch := viable_dispatch hinner hinBag (by omega)
      refine ⟨recognizes_value (n + 1) level h, fun hs hrun => ?_⟩
      rw [value_succ] at hrun
      exact hdispatch.breaks hs hrun

end Composites

end Reader

namespace Value

theorem read_eq_tooDeep {s : Octets} :
    read s = .error .tooDeep ↔ (Reader.value (maxLevel + 1)).run s = .error .tooDeep := by
  unfold read
  split
  · simp [*]
  · simp [*]
  · split <;> simp [*]

/-- A malformed text has a fault, or something after its value. -/
theorem before_of_read_eq_malformed {s : Octets} {position : Nat} {cause : Fault}
    (h : read s = .error (.malformed position cause)) :
    ∃ u rest, ∃ e : Reader.Ending Value, s = u ++ rest ∧ u.length = position ∧
      (Reader.value (maxLevel + 1)).run s = e.before rest := by
  unfold read at h
  split at h
  · cases h
  · rename_i cause rest hrun
    cases h
    obtain ⟨u, rfl⟩ := (Reader.within_value _).fault hrun
    exact ⟨u, rest, .fault cause, rfl, by simp, hrun⟩
  · rename_i v rest hrun
    split at h
    · cases h
    · cases h
      obtain ⟨u, rfl⟩ := (Reader.within_value _).ok hrun
      exact ⟨u, rest, .value v, rfl, by simp, hrun⟩

theorem read_ne_ok_of_before {s : Octets} {e : Reader.Ending Value} {c : UInt8} {rest : Octets}
    (h : (Reader.value (maxLevel + 1)).run s = e.before (c :: rest)) (v : Value) :
    read s ≠ .ok v := by
  cases e with
  | value w =>
    simp only [Reader.Ending.before] at h
    simp [read, h]
  | fault cause =>
    simp only [Reader.Ending.before] at h
    simp [read, h]

/-- A text with few enough openings is not too deep. Where it is malformed, what comes before can
be completed to a text that is read, but no longer together with the octet there. -/
theorem read_malformed {s : Octets} (h : openings s ≤ maxLevel) :
    read s ≠ .error .tooDeep ∧
    ∀ position cause, read s = .error (.malformed position cause) →
      position ≤ s.length ∧
      (∃ t v, read (s.take position ++ t) = .ok v) ∧
      (position < s.length → ∀ t v, read (s.take (position + 1) ++ t) ≠ .ok v) := by
  have hviable := Reader.viable_value (maxLevel + 1) 0 rfl
  have hopenings : 0 + openings s ≤ maxLevel := by omega
  have hshallow : read s ≠ .error .tooDeep := by
    intro hdeep
    cases hviable.breaks hopenings (read_eq_tooDeep.mp hdeep)
  refine ⟨hshallow, ?_⟩
  intro position cause hread
  obtain ⟨u, rest, e, rfl, rfl, hrun⟩ := before_of_read_eq_malformed hread
  have hcompletes : ∃ t v, IsValue 0 (u ++ t) v := by
    cases e with
    | value v =>
      obtain ⟨w, hw, hvalue⟩ := hviable.sound hrun
      obtain rfl := List.append_cancel_right hw
      exact ⟨[], v, by rwa [List.append_nil]⟩
    | fault cause =>
      generalize hs : u ++ rest = s at hopenings hrun
      cases hviable.breaks hopenings hrun with
      | @mk w t _ _ v hvalue =>
        obtain rfl := List.append_cancel_right hs
        exact ⟨t, v, hvalue⟩
  refine ⟨by simp, ?_, fun hposition t v => ?_⟩
  · obtain ⟨t, v, hvalue⟩ := hcompletes
    rw [List.take_left]
    exact ⟨t, v, read_eq_ok.mpr hvalue⟩
  · cases rest with
    | nil => simp at hposition
    | cons c r =>
      have htake : (u ++ c :: r).take (u.length + 1) = u ++ [c] := List.take_length_add_append 1
      rw [htake, List.append_assoc, List.singleton_append]
      exact read_ne_ok_of_before ((Reader.settled_value (maxLevel + 1)).rest t hrun) v

theorem read_malformed_bracket :
    read (Utf8.encodeText "(1]") = .error (.malformed 2 (.inTuple ']'.toUInt8)) ∧
      (∃ t v, read (Utf8.encodeText "(1" ++ t) = .ok v) ∧
      ∀ t v, read (Utf8.encodeText "(1]" ++ t) ≠ .ok v := by
  have hitem : IsValue 1 (Utf8.encodeText "1") (.int 1) :=
    .token (by decide) (.of_all (by decide)) (IsOpener.not_head (by decide))
  have hone := (Reader.recognizes_value maxLevel 1 rfl).complete hitem [']'.toUInt8]
    (bounded_cons (by decide) [])
  have hrun : (Reader.value (maxLevel + 1)).run (Utf8.encodeText "(1]") =
      .error (.fault (.inTuple ']'.toUInt8) [']'.toUInt8]) := by
    rw [Reader.value_succ, Reader.dispatch_tuple rfl, Reader.map_eq_error]
    show (Reader.tuple _).run ('('.toUInt8 :: Utf8.encodeText "1]") = _
    have hnull (t : Octets) : Utf8.encodeText "1]" ≠ Utf8.encodeText "null)" ++ t := by
      intro ht
      cases ht
    rw [Reader.tuple_cons, Reader.tupleTail_of_not_null hnull, Reader.elements_open (by decide)]
    exact Reader.runUntil_unexpected (by decide) (by decide) hone
  have hread : read (Utf8.encodeText "(1]") = .error (.malformed 2 (.inTuple ']'.toUInt8)) := by
    simp only [read, hrun]
    rfl
  obtain ⟨-, hplace⟩ := read_malformed (s := Utf8.encodeText "(1]") (by decide)
  obtain ⟨-, hbefore, hat⟩ := hplace 2 _ hread
  exact ⟨hread, hbefore, hat (by decide)⟩

end Value

end RangeSort
