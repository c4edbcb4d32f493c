import RangeSort.Proofs.Value.Grammar
import RangeSort.Proofs.Value.RoundTrip

/-! Readers accept the texts of the grammar and no others. -/

namespace RangeSort

variable {α β : Type}

/-- Where a value may stand, `p` reads the texts of `D`, and nothing else anywhere. -/
structure Recognizes (p : Reader α) (D : Octets → α → Prop) : Prop where
  complete {s : Octets} {a : α} : D s a → ∀ rest, Bounded rest → p.run (s ++ rest) = .ok (a, rest)
  sound {s rest : Octets} {a : α} : p.run s = .ok (a, rest) → ∃ t, s = t ++ rest ∧ D t a

namespace Reader

theorem map_eq_ok {p : Reader α} {f : α → β} {s rest : Octets} {b : β} :
    (p.map f).run s = .ok (b, rest) ↔ ∃ a, p.run s = .ok (a, rest) ∧ f a = b := by
  simp only [map]
  cases p.run s with
  | error e => simp
  | ok ar =>
    obtain ⟨a, r⟩ := ar
    simp only [Except.ok.injEq, Prod.mk.injEq]
    constructor
    · rintro ⟨rfl, rfl⟩
      exact ⟨a, ⟨rfl, rfl⟩, rfl⟩
    · rintro ⟨a, ⟨rfl, rfl⟩, rfl⟩
      exact ⟨rfl, rfl⟩

theorem recognizes_token : Recognizes token fun s cs => IsBare s ∧ cs = Utf8.decode s where
  complete {s cs} h rest hrest := by
    obtain ⟨hs, rfl⟩ := h
    obtain ⟨htake, hdrop⟩ := bare_run hs hrest
    simp only [token, htake, hdrop]
  sound {s rest cs} h := by
    cases h
    refine ⟨_, List.takeWhile_append_dropWhile.symm, fun b hb => ?_, rfl⟩
    have := List.mem_takeWhile_imp hb
    rwa [Bool.not_eq_true'] at this

theorem unquote_of_isQuoted {s body : Octets} (h : IsQuoted s body) (rest : Octets) :
    unquote (s ++ rest) = some (body, rest) := by
  induction h with
  | close => exact unquote_quote rest
  | @plain b s body hquote hescape h ih =>
    have hplain := unquote_plain (List.forall_mem_singleton.mpr ⟨hquote, hescape⟩) (s ++ rest)
    rw [ih] at hplain
    exact hplain
  | escaped b h ih =>
    rw [List.cons_append, List.cons_append, unquote_escape, ih]
    rfl

theorem isQuoted_of_unquote {s body rest : Octets} (h : unquote s = some (body, rest)) :
    ∃ t, s = t ++ rest ∧ IsQuoted t body := by
  fun_induction unquote s generalizing body rest with
  | case1 => cases h
  | case2 =>
    cases h
    exact ⟨_, rfl, .close⟩
  | case3 => cases h
  | case4 c s hescape ih =>
    obtain ⟨⟨body, rest⟩, hrest, h⟩ := Option.map_eq_some_iff.mp h
    cases h
    obtain ⟨t, rfl, ht⟩ := ih hrest
    exact ⟨_, rfl, .escaped c ht⟩
  | case5 b s hquote hescape ih =>
    obtain ⟨⟨body, rest⟩, hrest, h⟩ := Option.map_eq_some_iff.mp h
    cases h
    obtain ⟨t, rfl, ht⟩ := ih hrest
    exact ⟨_, rfl, .plain hquote hescape ht⟩

theorem quoted_run_of_isQuoted {s body : Octets} (h : IsQuoted s body) (rest : Octets) :
    quoted.run (s ++ rest) = .ok (Utf8.decodeText body, rest) := by
  simp only [quoted, unquote_of_isQuoted h]

theorem isQuoted_of_quoted_run {s rest : Octets} {text : String}
    (h : quoted.run s = .ok (text, rest)) :
    ∃ t body, s = t ++ rest ∧ IsQuoted t body ∧ text = Utf8.decodeText body := by
  simp only [quoted] at h
  split at h
  · cases h
  · cases h
    obtain ⟨t, hs, ht⟩ := isQuoted_of_unquote ‹_›
    exact ⟨t, _, hs, ht, rfl⟩

theorem recognizes_key : Recognizes key IsKey where
  complete {s k} h rest hrest := by
    cases h with
    | quoted h =>
      rw [List.cons_append, key_quoted]
      exact quoted_run_of_isQuoted h rest
    | bare h hquote =>
      have hfirst : (s ++ rest).head? ≠ some Mark.quote.toUInt8 := by
        cases s with
        | nil =>
          intro hr
          have := hrest _ hr
          revert this
          decide
        | cons b s => exact hquote
      rw [key_bare hfirst, map_eq_ok]
      exact ⟨_, recognizes_token.complete ⟨h, rfl⟩ rest hrest, rfl⟩
  sound {s rest k} h := by
    by_cases hquote : s.head? = some Mark.quote.toUInt8
    · obtain ⟨s, rfl⟩ := List.head?_eq_some_iff.mp hquote
      rw [key_quoted] at h
      obtain ⟨t, body, rfl, ht, rfl⟩ := isQuoted_of_quoted_run h
      exact ⟨_, rfl, .quoted ht⟩
    · rw [key_bare hquote, map_eq_ok] at h
      obtain ⟨cs, hcs, rfl⟩ := h
      obtain ⟨t, rfl, ht, rfl⟩ := recognizes_token.sound hcs
      refine ⟨t, rfl, .bare ht fun hhead => hquote ?_⟩
      obtain ⟨t, rfl⟩ := List.head?_eq_some_iff.mp hhead
      rfl

theorem recognizes_entry {p : Reader Value} {level : Nat} (h : Recognizes p (IsValue level)) :
    Recognizes (entry p) (IsEntry level) where
  complete {s e} hs rest hrest := by
    cases hs with
    | @mk _ s t key v hkey hv =>
      have hbounded : Bounded ('#'.toUInt8 :: (t ++ rest)) := bounded_cons (by decide) _
      have hrun := recognizes_key.complete hkey _ hbounded
      rw [List.append_assoc, List.cons_append]
      simp only [entry, hrun, List.head?_cons, if_true, List.tail_cons]
      exact map_eq_ok.mpr ⟨v, h.complete hv rest hrest, rfl⟩
  sound {s rest e} hrun := by
    simp only [entry] at hrun
    split at hrun
    · cases hrun
    · rename_i k r hkey
      split at hrun
      · rename_i hseparator
        obtain ⟨r, rfl⟩ := List.head?_eq_some_iff.mp hseparator
        obtain ⟨v, hv, rfl⟩ := map_eq_ok.mp hrun
        obtain ⟨s, rfl, hs⟩ := recognizes_key.sound hkey
        rw [List.tail_cons] at hv
        obtain ⟨t, rfl, ht⟩ := h.sound hv
        exact ⟨s ++ '#'.toUInt8 :: t, by rw [List.append_assoc, List.cons_append], .mk hs ht⟩
      · cases hrun

section Elements

variable {close : UInt8} {unexpected : UInt8 → Fault} {unclosed : Fault} {item : Reader α}
  {D : Octets → α → Prop}

theorem parts_of_runUntil (h : Recognizes item D) {s rest : Octets} {as : List α}
    (hrun : runUntil close unexpected unclosed item s = .ok (as, rest)) :
    ∃ parts : List (Octets × α), parts ≠ [] ∧ (∀ p ∈ parts, D p.1 p.2) ∧
      as = parts.map Prod.snd ∧ s = joined (parts.map Prod.fst) ++ close :: rest := by
  fun_induction runUntil close unexpected unclosed item s generalizing as rest with
  | case1 => cases hrun
  | case2 => cases hrun
  | case3 => cases hrun
  | case4 s a r as rest hmore hitem ih =>
    cases hrun
    obtain ⟨parts, hne, hparts, rfl, rfl⟩ := ih hmore
    obtain ⟨t, rfl, ht⟩ := h.sound hitem
    refine ⟨(t, a) :: parts, List.cons_ne_nil _ _, List.forall_mem_cons.mpr ⟨ht, hparts⟩, rfl, ?_⟩
    exact (joined_cons_append t (by simpa using hne) _).symm
  | case5 s a r hitem hcomma =>
    cases hrun
    obtain ⟨t, rfl, ht⟩ := h.sound hitem
    refine ⟨[(t, a)], List.cons_ne_nil _ _, List.forall_mem_singleton.mpr ht, rfl, ?_⟩
    rw [List.map_singleton, joined_singleton]
  | case6 => cases hrun

theorem parts_of_elements (h : Recognizes item D) {s rest : Octets} {as : List α}
    (hrun : (elements close unexpected unclosed item).run s = .ok (as, rest)) :
    ∃ parts : List (Octets × α), (∀ p ∈ parts, D p.1 p.2) ∧ as = parts.map Prod.snd ∧
      s = joined (parts.map Prod.fst) ++ close :: rest ∧
      (parts ≠ [] → s.head? ≠ some close) := by
  simp only [elements] at hrun
  split at hrun
  · rename_i hclose
    cases hrun
    obtain ⟨s, rfl⟩ := List.head?_eq_some_iff.mp hclose
    exact ⟨[], fun _ h => absurd h List.not_mem_nil, rfl, rfl, fun hne => absurd rfl hne⟩
  · rename_i hclose
    obtain ⟨parts, -, hparts, has, hs⟩ := parts_of_runUntil h hrun
    exact ⟨parts, hparts, has, hs, fun _ => hclose⟩

theorem elements_of_parts (h : Recognizes item D) (hdelimiter : isDelimiter close = true)
    (hcomma : close ≠ ','.toUInt8) {parts : List (Octets × α)} (hparts : ∀ p ∈ parts, D p.1 p.2)
    {rest : Octets}
    (hhead : parts ≠ [] →
      (joined (parts.map Prod.fst) ++ close :: rest).head? ≠ some close) :
    (elements close unexpected unclosed item).run
        (joined (parts.map Prod.fst) ++ close :: rest) = .ok (parts.map Prod.snd, rest) := by
  by_cases hne : parts = []
  · subst hne
    show (if some close = some close then _ else _) = _
    rw [if_pos rfl]
    rfl
  · have hrun : runUntil close unexpected unclosed item
        (joined (parts.map Prod.fst) ++ close :: rest) =
          outcome (parts.mapM fun p => some p.2) rest :=
      runUntil_joined hdelimiter hcomma hne
        (fun p hp rest hrest => h.complete (hparts p hp) rest hrest) rest
    have hmapM : parts.mapM (fun p => some p.2) = some (parts.map Prod.snd) := List.mapM_pure
    simp only [elements, if_neg (hhead hne), hrun, hmapM]
    rfl

end Elements

section Composites

variable {p inner inBag : Reader Value} {level : Nat}

theorem dispatch_of_not_isOpener {s : Octets} (h : ∀ b ∈ s.head?, ¬ IsOpener b) :
    (dispatch inner inBag).run s = (token.map Atom.read).run s :=
  dispatch_token fun b hb => by simpa only [IsOpener, not_or] using h b hb

theorem dispatch_of_choose {b : UInt8} {q : Reader Value} (h : choose inner inBag b = some q)
    (s : Octets) : (dispatch inner inBag).run (b :: s) = q.run s := by
  simp only [dispatch, List.head?_cons, Option.bind_some, h, List.tail_cons]

/-- The values of a tuple do not read as the word for null. -/
theorem items_ne_null {parts : List (Octets × Value)}
    (h : ∀ p ∈ parts, IsValue level p.1 p.2)
    (hnull : joined (parts.map Prod.fst) ≠ Utf8.encodeText "null") (rest t : Octets) :
    joined (parts.map Prod.fst) ++ ')'.toUInt8 :: rest ≠ Utf8.encodeText "null)" ++ t := by
  intro he
  cases parts with
  | nil => cases he
  | cons q parts =>
    have hq := h q List.mem_cons_self
    -- The first value would be the word itself, so the parenthesis after it leaves no room for
    -- another one.
    have hword : Utf8.encodeText "null)" ++ t = Utf8.encodeText "null" ++ ')'.toUInt8 :: t := rfl
    by_cases hparts : parts = []
    · subst hparts
      rw [List.map_singleton, joined_singleton] at he hnull
      exact hnull (hq.eq_null (bounded_cons (by decide) rest) (he.trans hword))
    · rw [List.map_cons, joined_cons_append _ (by simpa using hparts)] at he
      have hfirst := hq.eq_null (bounded_cons (by decide) _) (he.trans hword)
      rw [hfirst, hword] at he
      cases List.append_cancel_left he

theorem recognizes_tuple (h : Recognizes p (IsValue (level + 1))) :
    Recognizes (tuple p) (IsTuple level) where
  complete {s row} hs rest hrest := by
    cases hs with
    | null =>
      show (tuple p).run ('('.toUInt8 :: (Utf8.encodeText "null)" ++ rest)) = _
      rw [tuple_cons, tupleTail_null]
    | empty =>
      show (tuple p).run ('('.toUInt8 :: ')'.toUInt8 :: rest) = _
      rw [tuple_cons, tupleTail_of_not_null fun t he => by cases he]
      rfl
    | items parts hempty hnull hparts =>
      have hheads : ∀ t ∈ parts.map Prod.fst, t.head? ≠ some ')'.toUInt8 :=
        List.forall_mem_map.mpr fun q hq => (hparts q hq).head_ne (by decide)
      rw [List.cons_append, List.append_assoc, List.singleton_append, tuple_cons,
        tupleTail_of_not_null (items_ne_null hparts hnull rest)]
      exact elements_of_parts h (by decide) (by decide) hparts
        fun _ => head?_joined_ne (by decide) hheads hempty _
  sound {s rest row} hrun := by
    simp only [tuple] at hrun
    split at hrun
    · rename_i hopen
      obtain ⟨s, rfl⟩ := List.head?_eq_some_iff.mp hopen
      rw [List.tail_cons] at hrun
      by_cases hnull : ∃ t, s = Utf8.encodeText "null)" ++ t
      · obtain ⟨t, rfl⟩ := hnull
        rw [tupleTail_null] at hrun
        cases hrun
        exact ⟨Utf8.encodeText "(null)", rfl, .null level⟩
      · rw [not_exists] at hnull
        rw [tupleTail_of_not_null hnull] at hrun
        obtain ⟨parts, hparts, rfl, rfl, hhead⟩ := parts_of_elements h hrun
        by_cases hne : parts = []
        · subst hne
          exact ⟨Utf8.encodeText "()", rfl, .empty level⟩
        · have hempty : joined (parts.map Prod.fst) ≠ [] := by
            intro he
            rw [he] at hhead
            exact hhead hne rfl
          have hword : joined (parts.map Prod.fst) ≠ Utf8.encodeText "null" := by
            intro he
            exact hnull rest (by rw [he]; rfl)
          exact ⟨_, by simp, .items parts hempty hword hparts⟩
    · cases hrun

theorem bagTail_of_parts (h : Recognizes p (IsValue (level + 1))) {parts : List (Octets × Row)}
    (hparts : ∀ q ∈ parts, IsTuple level q.1 q.2) (rest : Octets) :
    (bagTail p).run (joined (parts.map Prod.fst) ++ '}'.toUInt8 :: rest) =
      .ok (parts.map Prod.snd, rest) := by
  refine elements_of_parts (recognizes_tuple h) (by decide) (by decide) hparts fun hne => ?_
  have hheads : ∀ t ∈ parts.map Prod.fst, t.head? = some '('.toUInt8 :=
    List.forall_mem_map.mpr fun q hq => (hparts q hq).head?
  refine head?_joined_ne (by decide) (fun t ht => ?_) (joined_ne_nil (fun t ht he => ?_) ?_) _
  · rw [hheads t ht]
    decide
  · have := hheads t ht
    rw [he] at this
    cases this
  · simpa using hne

theorem mapTail_of_parts (h : Recognizes p (IsValue level))
    {parts : List (Octets × String × Value)} (hparts : ∀ q ∈ parts, IsEntry level q.1 q.2)
    (rest : Octets) :
    (mapTail p).run (joined (parts.map Prod.fst) ++ ']'.toUInt8 :: rest) =
      .ok (KeyMap.ofList (parts.map Prod.snd), rest) := by
  have hheads : ∀ t ∈ parts.map Prod.fst, t ≠ [] ∧ t.head? ≠ some ']'.toUInt8 :=
    List.forall_mem_map.mpr fun q hq => (hparts q hq).head?_ne
  refine map_eq_ok.mpr ⟨_, ?_, rfl⟩
  refine elements_of_parts (recognizes_entry h) (by decide) (by decide) hparts fun hne => ?_
  have hjoined := joined_ne_nil (fun t ht => (hheads t ht).1) (by simpa using hne)
  exact head?_joined_ne (by decide) (fun t ht => (hheads t ht).2) hjoined _

theorem recognizes_dispatch (hlevel : level ≤ maxLevel)
    (hinner : Recognizes inner (IsValue (level + 1)))
    (hinBag : Recognizes inBag (IsValue (level + 2))) :
    Recognizes (dispatch inner inBag) (IsValue level) where
  complete {s v} h rest hrest := by
    cases h with
    | token _ hs hopener =>
      have hfirst : ∀ b ∈ (s ++ rest).head?, ¬ IsOpener b := by
        cases s with
        | nil =>
          intro b hb
          rcases (isDelimiter_iff b).mp (hrest b hb) with rfl | rfl | rfl | rfl | rfl <;>
            simp only [IsOpener] <;> decide
        | cons c s => exact hopener
      rw [dispatch_of_not_isOpener hfirst]
      exact map_eq_ok.mpr ⟨_, recognizes_token.complete ⟨hs, rfl⟩ rest hrest, rfl⟩
    | quoted _ h => exact map_eq_ok.mpr ⟨_, quoted_run_of_isQuoted h rest, rfl⟩
    | tuple _ h =>
      have hopen : (s ++ rest).head? = some '('.toUInt8 := by
        obtain ⟨t, rfl⟩ := List.head?_eq_some_iff.mp h.head?
        rfl
      rw [dispatch_tuple hopen]
      exact map_eq_ok.mpr ⟨_, (recognizes_tuple hinner).complete h rest hrest, rfl⟩
    | bag _ parts hparts =>
      rw [List.cons_append, List.append_assoc]
      exact map_eq_ok.mpr ⟨_, bagTail_of_parts hinBag hparts rest, rfl⟩
    | map _ parts hparts =>
      rw [List.cons_append, List.append_assoc]
      exact map_eq_ok.mpr ⟨_, mapTail_of_parts hinner hparts rest, rfl⟩
  sound {s rest v} hrun := by
    by_cases hopener : ∀ b ∈ s.head?, ¬ IsOpener b
    · rw [dispatch_of_not_isOpener hopener] at hrun
      obtain ⟨cs, hcs, rfl⟩ := map_eq_ok.mp hrun
      obtain ⟨t, rfl, ht, rfl⟩ := recognizes_token.sound hcs
      refine ⟨t, rfl, .token hlevel ht fun b hb => hopener b ?_⟩
      obtain ⟨t, rfl⟩ := List.head?_eq_some_iff.mp hb
      rfl
    · simp only [not_forall, not_not, Option.mem_def, List.head?_eq_some_iff] at hopener
      obtain ⟨b, ⟨s, rfl⟩, hb⟩ := hopener
      rcases hb with rfl | rfl | rfl | rfl
      · rw [dispatch_tuple rfl] at hrun
        obtain ⟨row, hrow, rfl⟩ := map_eq_ok.mp hrun
        obtain ⟨t, ht, hrow⟩ := (recognizes_tuple hinner).sound hrow
        exact ⟨t, ht, .tuple hlevel hrow⟩
      · rw [dispatch_of_choose rfl] at hrun
        obtain ⟨rows, hrows, rfl⟩ := map_eq_ok.mp hrun
        obtain ⟨parts, hparts, rfl, rfl, -⟩ := parts_of_elements (recognizes_tuple hinBag) hrows
        exact ⟨_, by simp, .bag hlevel parts hparts⟩
      · rw [dispatch_of_choose rfl] at hrun
        obtain ⟨table, htable, rfl⟩ := map_eq_ok.mp hrun
        obtain ⟨entries, hentries, rfl⟩ := map_eq_ok.mp htable
        obtain ⟨parts, hparts, rfl, rfl, -⟩ := parts_of_elements (recognizes_entry hinner) hentries
        exact ⟨_, by simp, .map hlevel parts hparts⟩
      · rw [dispatch_of_choose rfl] at hrun
        obtain ⟨text, htext, rfl⟩ := map_eq_ok.mp hrun
        obtain ⟨t, body, rfl, ht, rfl⟩ := isQuoted_of_quoted_run htext
        exact ⟨_, by rw [List.cons_append], .quoted hlevel ht⟩

/-- Values below the last level are not read, and none is one. -/
theorem recognizes_value (n level : Nat) (h : n = maxLevel + 1 - level) :
    Recognizes (value n) (IsValue level) := by
  induction n using Nat.strongRecOn generalizing level with
  | _ n ih =>
    cases n with
    | zero =>
      refine ⟨fun hv => ?_, fun hrun => nomatch hrun⟩
      have := hv.level_le
      omega
    | succ n =>
      -- A bag takes two levels, so the induction goes over all smaller rooms.
      have hinner := ih n (by omega) (level + 1) (by omega)
      have hinBag := ih (n - 1) (by omega) (level + 2) (by omega)
      have hdispatch := recognizes_dispatch (by omega) hinner hinBag
      refine ⟨fun hv rest hrest => ?_, fun hrun => ?_⟩
      · rw [value_succ]
        exact hdispatch.complete hv rest hrest
      · rw [value_succ] at hrun
        exact hdispatch.sound hrun

end Composites

end Reader

theorem Value.read_eq_ok {s : Octets} {v : Value} : Value.read s = .ok v ↔ IsValue 0 s v := by
  have hvalue := Reader.recognizes_value (maxLevel + 1) 0 rfl
  constructor
  · intro h
    unfold Value.read at h
    split at h
    · cases h
    · cases h
    · rename_i hrun
      split at h
      · rename_i hrest
        cases h
        obtain ⟨t, rfl, ht⟩ := hvalue.sound hrun
        rwa [List.isEmpty_iff.mp hrest, List.append_nil]
      · cases h
  · intro h
    have hrun := hvalue.complete h [] bounded_nil
    rw [List.append_nil] at hrun
    simp only [Value.read, hrun]
    rfl

end RangeSort
