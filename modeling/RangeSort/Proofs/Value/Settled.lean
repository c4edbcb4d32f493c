import RangeSort.Proofs.Value.Position

/-! Reading depends on its input up to the octet that it stops in front of, and on nothing after
that. -/

namespace RangeSort

variable {α β : Type}

namespace Reader

/-- How reading can stop at a place: with a value before it or with a fault. -/
inductive Ending (α : Type) where
  | value (a : α)
  | fault (cause : Fault)

namespace Ending

def before : Ending α → Octets → Except Stop (α × Octets)
  | .value a, rest => .ok (a, rest)
  | .fault cause, rest => .error (.fault cause rest)

theorem before_eq_ok {e : Ending α} {a : α} {rest left : Octets}
    (h : e.before rest = .ok (a, left)) : e = .value a ∧ rest = left := by
  cases e with
  | value b =>
    cases h
    exact ⟨rfl, rfl⟩
  | fault cause => cases h

theorem before_eq_error {e : Ending α} {stop : Stop} {rest : Octets}
    (h : e.before rest = .error stop) : ∃ cause, e = .fault cause ∧ stop = .fault cause rest := by
  cases e with
  | value b => cases h
  | fault cause =>
    cases h
    exact ⟨cause, rfl, rfl⟩

end Ending

theorem map_eq_error {p : Reader α} {f : α → β} {s : Octets} {stop : Stop} :
    (p.map f).run s = .error stop ↔ p.run s = .error stop := by
  simp only [map]
  cases p.run s <;> simp

/-- What comes after the octet that reading stops in front of makes no difference. -/
structure Settled (p : Reader α) : Prop extends Within p where
  rest {e : Ending α} {u r : Octets} {c : UInt8} (t : Octets) :
    p.run (u ++ c :: r) = e.before (c :: r) → p.run (u ++ c :: t) = e.before (c :: t)

theorem Within.suffix_of_before {p : Reader α} (h : Within p) {e : Ending α} {s rest : Octets}
    (hrun : p.run s = e.before rest) : rest <:+ s := by
  cases e with
  | value a => exact h.ok hrun
  | fault cause => exact h.fault hrun

theorem not_cons_suffix (c : UInt8) (r : Octets) : ¬ c :: r <:+ r := by
  intro h
  have hlength := h.length_le
  rw [List.length_cons] at hlength
  omega

/-- An octet before the place where reading stops, with what lies between the two. -/
theorem exists_between {u r left : Octets} {b c : UInt8} (hleft : b :: left <:+ u ++ c :: r)
    (hr : c :: r <:+ left) : ∃ v w, u = v ++ b :: w ∧ left = w ++ c :: r := by
  obtain ⟨v, hv⟩ := hleft
  obtain ⟨w, rfl⟩ := hr
  refine ⟨v, w, (List.append_left_inj (c :: r)).mp ?_, rfl⟩
  rw [← hv, List.append_assoc, List.cons_append]

theorem settled_tooDeep : Settled (fail (α := α) .tooDeep) where
  toWithin := within_tooDeep
  rest t h := by
    obtain ⟨cause, -, hstop⟩ := Ending.before_eq_error h.symm
    cases hstop

theorem Settled.map {p : Reader α} (h : Settled p) (f : α → β) : Settled (p.map f) where
  toWithin := h.toWithin.map f
  rest {e u r c} t hrun := by
    cases e with
    | value b =>
      obtain ⟨a, ha, rfl⟩ := map_eq_ok.mp hrun
      exact map_eq_ok.mpr ⟨a, h.rest (e := .value a) t ha, rfl⟩
    | fault cause => exact map_eq_error.mpr (h.rest (e := .fault cause) t (map_eq_error.mp hrun))

theorem settled_token : Settled token where
  toWithin := within_token
  rest {e u r c} t hrun := by
    cases e with
    | fault cause => cases hrun
    | value cs =>
      have hdelimiter : isDelimiter c = true := by
        have hdrop : (u ++ c :: r).dropWhile (fun b => !isDelimiter b) = c :: r :=
          (Prod.mk.inj (Except.ok.inj hrun)).2
        have := List.head?_dropWhile_not (fun b => !isDelimiter b) (u ++ c :: r)
        simpa [hdrop] using this
      obtain ⟨v, hv, hbare⟩ := recognizes_token.sound hrun
      obtain rfl := List.append_cancel_right hv
      exact recognizes_token.complete hbare (c :: t) (bounded_cons hdelimiter t)

theorem settled_quoted : Settled quoted where
  toWithin := within_quoted
  rest {e u r c} t hrun := by
    cases e with
    | fault cause =>
      simp only [quoted] at hrun
      split at hrun
      · cases hrun
      · cases hrun
    | value text =>
      obtain ⟨v, body, hv, hbody, rfl⟩ := isQuoted_of_quoted_run hrun
      obtain rfl := List.append_cancel_right hv
      exact quoted_run_of_isQuoted hbody (c :: t)

theorem settled_key : Settled key where
  toWithin := within_key
  rest {e u r c} t hrun := by
    have htoken := settled_token.map String.ofList
    have hbare {b : UInt8} (hb : b ≠ Mark.quote.toUInt8) (s : Octets) :
        key.run (b :: s) = (token.map String.ofList).run (b :: s) := key_bare (by simpa using hb)
    cases u with
    | nil =>
      by_cases hquote : c = Mark.quote.toUInt8
      · subst hquote
        rw [List.nil_append, key_quoted] at hrun
        exact absurd (within_quoted.suffix_of_before hrun) (not_cons_suffix _ r)
      · rw [List.nil_append, hbare hquote] at hrun ⊢
        exact htoken.rest (u := []) t hrun
    | cons b u =>
      by_cases hquote : b = Mark.quote.toUInt8
      · subst hquote
        rw [List.cons_append, key_quoted] at hrun ⊢
        exact settled_quoted.rest t hrun
      · rw [List.cons_append, hbare hquote] at hrun ⊢
        exact htoken.rest (u := b :: u) t hrun

section Entries

variable {p : Reader Value}

theorem entry_error {s : Octets} {stop : Stop} (h : key.run s = .error stop) :
    (entry p).run s = .error stop := by
  simp only [entry, h]

theorem entry_separated {s left : Octets} {k : String}
    (h : key.run s = .ok (k, '#'.toUInt8 :: left)) :
    (entry p).run s = (p.map fun v => (k, v)).run left := by
  simp only [entry, h, List.head?_cons, if_true, List.tail_cons]

theorem entry_unseparated {s left : Octets} {k : String} (h : key.run s = .ok (k, left))
    (hleft : left.head? ≠ some '#'.toUInt8) :
    (entry p).run s = .error (.fault (.noSeparator k) left) := by
  simp only [entry, h, if_neg hleft]

theorem Settled.entry (h : Settled p) : Settled (entry p) where
  toWithin := h.toWithin.entry
  rest {e u r c} t hrun := by
    cases hkey : key.run (u ++ c :: r) with
    | error stop =>
      rw [entry_error hkey] at hrun
      obtain ⟨cause, rfl, rfl⟩ := Ending.before_eq_error hrun.symm
      exact entry_error (settled_key.rest (e := .fault cause) t hkey)
    | ok out =>
      obtain ⟨k, left⟩ := out
      by_cases hleft : left.head? = some '#'.toUInt8
      · obtain ⟨left, rfl⟩ := List.head?_eq_some_iff.mp hleft
        rw [entry_separated hkey] at hrun
        have hsuffix := (h.map _).suffix_of_before hrun
        obtain ⟨v, w, rfl, rfl⟩ := exists_between (within_key.ok hkey) hsuffix
        rw [List.append_assoc, List.cons_append] at hkey ⊢
        rw [entry_separated (settled_key.rest (e := .value k) (w ++ c :: t) hkey)]
        exact (h.map _).rest t hrun
      · rw [entry_unseparated hkey hleft] at hrun
        obtain ⟨cause, rfl, hstop⟩ := Ending.before_eq_error hrun.symm
        cases hstop
        exact entry_unseparated (settled_key.rest (e := .value k) t hkey) hleft

end Entries

section Elements

variable {close : UInt8} {unexpected : UInt8 → Fault} {unclosed : Fault} {item : Reader α}

theorem runUntil_comma {s left : Octets} {a : α} (h : item.run s = .ok (a, ','.toUInt8 :: left)) :
    runUntil close unexpected unclosed item s =
      (runUntil close unexpected unclosed item left).map fun out => (a :: out.1, out.2) := by
  rw [runUntil]
  split
  all_goals
    rename_i h'
    rw [h] at h'
    cases h'
  rw [if_pos rfl]
  split
  · rename_i hmore
    rw [hmore]
    rfl
  · rename_i hmore
    rw [hmore]
    rfl

theorem runUntil_unexpected {s left : Octets} {a : α} {b : UInt8} (hcomma : b ≠ ','.toUInt8)
    (hclose : b ≠ close) (h : item.run s = .ok (a, b :: left)) :
    runUntil close unexpected unclosed item s = .error (.fault (unexpected b) (b :: left)) := by
  rw [runUntil]
  split
  all_goals
    rename_i h'
    rw [h] at h'
    cases h'
  rw [if_neg hcomma, if_neg hclose]

theorem Settled.rest_runUntil (h : Settled item) {e : Ending (List α)} {u r : Octets} {c : UInt8}
    (t : Octets)
    (hrun : runUntil close unexpected unclosed item (u ++ c :: r) = e.before (c :: r)) :
    runUntil close unexpected unclosed item (u ++ c :: t) = e.before (c :: t) := by
  generalize hs : u ++ c :: r = s at hrun
  fun_induction runUntil close unexpected unclosed item s generalizing e u with
  | case1 s stop hitem =>
    subst hs
    obtain ⟨cause, rfl, rfl⟩ := Ending.before_eq_error hrun.symm
    exact runUntil_error (h.rest (e := .fault cause) t hitem)
  | case2 s a hitem =>
    obtain ⟨cause, -, hstop⟩ := Ending.before_eq_error hrun.symm
    cases hstop
  | case3 s a left stop hmore hitem ih =>
    subst hs
    obtain ⟨cause, rfl, rfl⟩ := Ending.before_eq_error hrun.symm
    obtain ⟨v, w, rfl, rfl⟩ := exists_between (h.ok hitem) (h.fault_runUntil hmore)
    rw [List.append_assoc, List.cons_append] at hitem ⊢
    have hmore' := ih (e := .fault cause) rfl hmore
    rw [runUntil_comma (h.rest (e := .value a) (w ++ c :: t) hitem), hmore']
    rfl
  | case4 s a left as rest hmore hitem ih =>
    subst hs
    obtain ⟨rfl, rfl⟩ := Ending.before_eq_ok hrun.symm
    obtain ⟨v, w, rfl, rfl⟩ := exists_between (h.ok hitem) (h.ok_runUntil hmore)
    rw [List.append_assoc, List.cons_append] at hitem ⊢
    have hmore' := ih (e := .value as) rfl hmore
    rw [runUntil_comma (h.rest (e := .value a) (w ++ c :: t) hitem), hmore']
    rfl
  | case5 s a left hitem hclose =>
    subst hs
    obtain ⟨rfl, rfl⟩ := Ending.before_eq_ok hrun.symm
    obtain ⟨v, w, rfl, hw⟩ := exists_between (h.ok hitem) (List.suffix_refl (c :: r))
    obtain rfl : w = [] := (List.append_left_inj (c :: r)).mp hw.symm
    rw [List.append_assoc, List.cons_append] at hitem ⊢
    exact runUntil_last hclose (h.rest (e := .value a) (c :: t) hitem)
  | case6 s a b left hitem hcomma hclose =>
    subst hs
    obtain ⟨cause, rfl, hstop⟩ := Ending.before_eq_error hrun.symm
    cases hstop
    exact runUntil_unexpected hcomma hclose (h.rest (e := .value a) t hitem)

theorem elements_close (s : Octets) :
    (elements close unexpected unclosed item).run (close :: s) = .ok ([], s) := by
  simp only [elements, List.head?_cons, if_true, List.tail_cons]

theorem elements_open {s : Octets} (h : s.head? ≠ some close) :
    (elements close unexpected unclosed item).run s =
      runUntil close unexpected unclosed item s := by
  simp only [elements, if_neg h]

theorem Settled.elements (h : Settled item) :
    Settled (elements close unexpected unclosed item) where
  toWithin := h.toWithin.elements
  rest {e u r c} t hrun := by
    have hhead (s : Octets) : (u ++ c :: s).head? = u.head?.or (some c) := List.head?_append
    by_cases hclose : u.head?.or (some c) = some close
    · cases u with
      | nil =>
        cases hclose
        rw [List.nil_append, elements_close] at hrun
        obtain ⟨-, hr⟩ := Ending.before_eq_ok hrun.symm
        simp at hr
      | cons b u =>
        cases hclose
        rw [List.cons_append, elements_close] at hrun ⊢
        obtain ⟨rfl, hr⟩ := Ending.before_eq_ok hrun.symm
        obtain rfl : u = [] := (List.append_left_inj (c :: r)).mp hr.symm
        rfl
    · rw [elements_open (by rwa [hhead])] at hrun ⊢
      exact h.rest_runUntil t hrun

end Elements

section Composites

variable {p inner inBag : Reader Value}

/-- The word for null, in front of a closing parenthesis, is read as one token or not at all. -/
def ReadsNull (p : Reader Value) : Prop :=
  ∀ t, p.run (Utf8.encodeText "null)" ++ t) = .error .tooDeep ∨
    ∃ v, p.run (Utf8.encodeText "null)" ++ t) = .ok (v, ')'.toUInt8 :: t)

theorem Settled.tupleTail (h : Settled p) (hnull : ReadsNull p) : Settled (tupleTail p) where
  toWithin := h.toWithin.tupleTail
  rest {e u r c} t hrun := by
    by_cases hword : ∃ s, u ++ c :: r = Utf8.encodeText "null)" ++ s
    · obtain ⟨s, hs⟩ := hword
      rw [hs, tupleTail_null] at hrun
      obtain ⟨rfl, rfl⟩ := Ending.before_eq_ok hrun.symm
      obtain rfl := List.append_cancel_right hs
      exact tupleTail_null (c :: t)
    · rw [tupleTail_of_not_null (not_exists.mp hword)] at hrun
      have helements := h.elements.rest t hrun
      rw [tupleTail_of_not_null, helements]
      intro s hs
      -- As values between commas the word ends where the null of `tupleTail` does, so that `u` is
      -- all of it.
      have hopen : (Utf8.encodeText "null)" ++ s).head? ≠ some ')'.toUInt8 := by
        show some 'n'.toUInt8 ≠ some ')'.toUInt8
        decide
      rw [hs, elements_open hopen] at helements
      rcases hnull s with hdeep | ⟨v, hv⟩
      · rw [runUntil_error hdeep] at helements
        obtain ⟨cause, -, hstop⟩ := Ending.before_eq_error helements.symm
        cases hstop
      · rw [runUntil_last (by decide) hv] at helements
        obtain ⟨-, rfl⟩ := Ending.before_eq_ok helements.symm
        obtain rfl := List.append_cancel_right hs
        exact hword ⟨c :: r, rfl⟩

theorem tuple_of_head?_ne {s : Octets} (h : s.head? ≠ some '('.toUInt8) :
    (tuple p).run s = .error (.fault .notTuple s) := by
  simp only [tuple, if_neg h]

theorem Settled.tuple (h : Settled p) (hnull : ReadsNull p) : Settled (tuple p) where
  toWithin := h.toWithin.tuple
  rest {e u r c} t hrun := by
    cases u with
    | nil =>
      rw [List.nil_append] at hrun ⊢
      by_cases hopen : c = '('.toUInt8
      · subst hopen
        rw [tuple_cons] at hrun
        exact absurd (h.toWithin.tupleTail.suffix_of_before hrun) (not_cons_suffix _ r)
      · have hnot (s : Octets) : (c :: s).head? ≠ some '('.toUInt8 := by simpa using hopen
        rw [tuple_of_head?_ne (hnot r)] at hrun
        obtain ⟨cause, rfl, hstop⟩ := Ending.before_eq_error hrun.symm
        cases hstop
        exact tuple_of_head?_ne (hnot t)
    | cons b u =>
      rw [List.cons_append] at hrun ⊢
      by_cases hopen : b = '('.toUInt8
      · subst hopen
        rw [tuple_cons] at hrun ⊢
        exact (h.tupleTail hnull).rest t hrun
      · rw [tuple_of_head?_ne (by simpa using hopen)] at hrun
        obtain ⟨cause, -, hstop⟩ := Ending.before_eq_error hrun.symm
        have hlength := congrArg List.length (Stop.fault.inj hstop).2
        simp only [List.length_cons, List.length_append] at hlength
        omega

theorem settled_of_choose (hinner : Settled inner) (hnull : ReadsNull inner)
    (hinBag : Settled inBag) (hnullInBag : ReadsNull inBag) {b : UInt8} {q : Reader Value}
    (h : choose inner inBag b = some q) : Settled q := by
  unfold choose at h
  split at h
  · cases h
    exact (hinner.tupleTail hnull).map _
  · split at h
    · cases h
      exact (hinBag.tuple hnullInBag).elements.map _
    · split at h
      · cases h
        exact (hinner.entry.elements.map _).map _
      · split at h
        · cases h
          exact settled_quoted.map _
        · cases h

theorem dispatch_of_choose_eq_none {b : UInt8} (h : choose inner inBag b = none) (s : Octets) :
    (dispatch inner inBag).run (b :: s) = (token.map Atom.read).run (b :: s) := by
  simp only [dispatch, List.head?_cons, Option.bind_some, h]

theorem Settled.dispatch (hinner : Settled inner) (hnull : ReadsNull inner)
    (hinBag : Settled inBag) (hnullInBag : ReadsNull inBag) : Settled (dispatch inner inBag) where
  toWithin := hinner.toWithin.dispatch hinBag.toWithin
  rest {e u r c} t hrun := by
    have htoken := settled_token.map Atom.read
    cases u with
    | nil =>
      cases hq : choose inner inBag c with
      | none =>
        rw [List.nil_append, dispatch_of_choose_eq_none hq] at hrun ⊢
        exact htoken.rest (u := []) t hrun
      | some q =>
        have hsettled := settled_of_choose hinner hnull hinBag hnullInBag hq
        rw [List.nil_append, dispatch_of_choose hq] at hrun
        exact absurd (hsettled.suffix_of_before hrun) (not_cons_suffix c r)
    | cons b u =>
      cases hq : choose inner inBag b with
      | none =>
        rw [List.cons_append, dispatch_of_choose_eq_none hq] at hrun ⊢
        exact htoken.rest (u := b :: u) t hrun
      | some q =>
        have hsettled := settled_of_choose hinner hnull hinBag hnullInBag hq
        rw [List.cons_append, dispatch_of_choose hq] at hrun ⊢
        exact hsettled.rest t hrun

theorem readsNull_value (n : Nat) : ReadsNull (value n) := by
  intro t
  cases n with
  | zero => exact .inl rfl
  | succ n =>
    have hbare : IsBare (Utf8.encodeText "null") := .of_all (by decide)
    have htoken := recognizes_token.complete ⟨hbare, rfl⟩ (')'.toUInt8 :: t)
      (bounded_cons (by decide) t)
    rw [value_succ]
    exact .inr ⟨_, map_eq_ok.mpr ⟨_, htoken, rfl⟩⟩

theorem settled_value (n : Nat) : Settled (value n) := by
  induction n using Nat.strongRecOn with
  | _ n ih =>
    cases n with
    | zero => exact settled_tooDeep
    | succ n =>
      have hdispatch := (ih n (by omega)).dispatch (readsNull_value n)
        (ih (n - 1) (by omega)) (readsNull_value (n - 1))
      refine ⟨within_value (n + 1), fun t hrun => ?_⟩
      rw [value_succ] at hrun ⊢
      exact hdispatch.rest t hrun

end Composites

end Reader

end RangeSort
