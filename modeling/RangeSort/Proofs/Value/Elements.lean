import RangeSort.Proofs.Value.Token

/-! Elements between commas are read one by one, and reading stops at the first that lies too
deep. -/

namespace RangeSort

variable {α β : Type}

section Provided

open scoped Classical in
noncomputable def provided (P : Prop) (a : α) : Option α :=
  if P then some a else none

theorem provided_pos {P : Prop} (h : P) (a : α) : provided P a = some a :=
  if_pos h

theorem provided_neg {P : Prop} (h : ¬ P) (a : α) : provided P a = none :=
  if_neg h

theorem map_provided (P : Prop) (a : α) (f : α → β) :
    (provided P a).map f = provided P (f a) := by
  by_cases h : P
  · rw [provided_pos h, provided_pos h, Option.map_some]
  · rw [provided_neg h, provided_neg h, Option.map_none]

theorem mapM_provided (P : α → Prop) (f : α → β) (l : List α) :
    l.mapM (fun a => provided (P a) (f a)) = provided (∀ a ∈ l, P a) (l.map f) := by
  induction l with
  | nil => exact (provided_pos (by simp) _).symm
  | cons a l ih =>
    rw [List.mapM_cons, ih, List.forall_mem_cons]
    by_cases ha : P a
    · rw [provided_pos ha]
      by_cases hl : ∀ b ∈ l, P b
      · rw [provided_pos hl, provided_pos ⟨ha, hl⟩]
        rfl
      · have hboth : ¬ (P a ∧ ∀ b ∈ l, P b) := fun h => hl h.2
        rw [provided_neg hl, provided_neg hboth]
        rfl
    · have hboth : ¬ (P a ∧ ∀ b ∈ l, P b) := fun h => ha h.1
      rw [provided_neg ha, provided_neg hboth]
      rfl

end Provided

section Joined

/-- Octet strings with commas between them. -/
def joined (texts : List Octets) : Octets :=
  [','.toUInt8].intercalate texts

@[simp]
theorem joined_singleton (s : Octets) : joined [s] = s :=
  List.intercalate_singleton

theorem joined_cons_append (s : Octets) {texts : List Octets} (h : texts ≠ []) (rest : Octets) :
    joined (s :: texts) ++ rest = s ++ ','.toUInt8 :: (joined texts ++ rest) := by
  rw [joined, List.intercalate_cons_of_ne_nil h, List.append_assoc, List.append_assoc]
  rfl

theorem encode_commaJoined (texts : List (List Char)) :
    Utf8.encode (commaJoined texts) = joined (texts.map Utf8.encode) := by
  induction texts with
  | nil => rfl
  | cons s texts ih =>
    cases texts with
    | nil => exact (joined_singleton (Utf8.encode s)).symm
    | cons t texts =>
      have hjoined := joined_cons_append (Utf8.encode s)
        (List.cons_ne_nil (Utf8.encode t) (texts.map Utf8.encode)) []
      rw [List.append_nil, List.append_nil, ← List.map_cons, ← ih, ← List.map_cons] at hjoined
      rw [hjoined, commaJoined, Utf8.encode_append, Utf8.encode_cons,
        Utf8.encodeChar_ascii (by decide)]
      · rfl
      · exact nofun

end Joined

namespace Reader

/-- A result in front of `rest`, where nothing stands for a value that lies too deep. -/
def outcome (out : Option α) (rest : Octets) : Except Stop (α × Octets) :=
  match out with
  | none => .error .tooDeep
  | some a => .ok (a, rest)

theorem map_run {f : α → β} {p : Reader α} {s rest : Octets} {out : Option α}
    (h : p.run s = outcome out rest) : (p.map f).run s = outcome (out.map f) rest := by
  cases out with
  | none =>
    rw [outcome] at h
    simp only [map, h, Option.map_none, outcome]
  | some a =>
    rw [outcome] at h
    simp only [map, h, Option.map_some, outcome]

end Reader

/-- Wherever a value may stand, the text is read with the given result. -/
def Reads (p : Reader α) (text : List Char) (out : Option α) : Prop :=
  ∀ rest, Bounded rest → p.run (Utf8.encode text ++ rest) = Reader.outcome out rest

namespace Reader

section RunUntil

variable {close : UInt8} {unexpected : UInt8 → Fault} {unclosed : Fault} {item : Reader α}

theorem runUntil_error {s : Octets} {e : Stop} (h : item.run s = .error e) :
    runUntil close unexpected unclosed item s = .error e := by
  rw [runUntil]
  split
  all_goals
    rename_i h'
    rw [h] at h'
    cases h'
  rfl

theorem runUntil_last {s rest : Octets} {a : α} (hclose : close ≠ ','.toUInt8)
    (h : item.run s = .ok (a, close :: rest)) :
    runUntil close unexpected unclosed item s = .ok ([a], rest) := by
  rw [runUntil]
  split
  all_goals
    rename_i h'
    rw [h] at h'
    cases h'
  rw [if_neg hclose, if_pos rfl]

theorem runUntil_more {s t rest : Octets} {a : α} {out : Option (List α)}
    (h : item.run s = .ok (a, ','.toUInt8 :: t))
    (ht : runUntil close unexpected unclosed item t = outcome out rest) :
    runUntil close unexpected unclosed item s = outcome (out.map (a :: ·)) rest := by
  rw [runUntil]
  split
  all_goals
    rename_i h'
    rw [h] at h'
    cases h'
  rw [if_pos rfl, ht]
  cases out <;> rfl

theorem runUntil_joined (hdelimiter : isDelimiter close = true) (hcomma : close ≠ ','.toUInt8)
    {l : List β} (hne : l ≠ []) {text : β → Octets} {out : β → Option α}
    (hitem : ∀ b ∈ l, ∀ rest, Bounded rest → item.run (text b ++ rest) = outcome (out b) rest)
    (rest : Octets) :
    runUntil close unexpected unclosed item (joined (l.map text) ++ close :: rest) =
      outcome (l.mapM out) rest := by
  induction l with
  | nil => exact absurd rfl hne
  | cons b l ih =>
    have hb := hitem b List.mem_cons_self
    cases l with
    | nil =>
      have hrun := hb _ (bounded_cons hdelimiter rest)
      rw [List.map_singleton, joined_singleton]
      cases hout : out b with
      | none =>
        rw [hout] at hrun
        rw [runUntil_error hrun]
        simp [hout, outcome]
      | some a =>
        rw [hout] at hrun
        rw [runUntil_last hcomma hrun]
        simp [hout, outcome]
    | cons b' l =>
      have hrest := ih (List.cons_ne_nil b' l) fun d hd => hitem d (List.mem_cons_of_mem b hd)
      have hrun := hb _ (bounded_cons (by decide : isDelimiter ','.toUInt8 = true)
        (joined ((b' :: l).map text) ++ close :: rest))
      have hjoined : joined ((b :: b' :: l).map text) ++ close :: rest =
          text b ++ ','.toUInt8 :: (joined ((b' :: l).map text) ++ close :: rest) :=
        joined_cons_append (text b) (by simp) (close :: rest)
      rw [hjoined, List.mapM_cons]
      cases hout : out b with
      | none =>
        rw [hout] at hrun
        rw [runUntil_error hrun]
        rfl
      | some a =>
        rw [hout] at hrun
        rw [runUntil_more hrun hrest]
        cases (b' :: l).mapM out <;> rfl

theorem runUntil_commaJoined {c : Char} (hc : c.toNat < 0x80)
    (hdelimiter : isDelimiter c.toUInt8 = true) (hcomma : c ≠ ',') {l : List β} (hne : l ≠ [])
    {text : β → List Char} {out : β → Option α} (hitem : ∀ b ∈ l, Reads item (text b) (out b))
    (rest : Octets) :
    runUntil c.toUInt8 unexpected unclosed item
        (Utf8.encode (commaJoined (l.map text)) ++ c.toUInt8 :: rest) =
      outcome (l.mapM out) rest := by
  have hclose : c.toUInt8 ≠ ','.toUInt8 :=
    Utf8.ne_of_mem_encodeChar (by decide) hcomma _ (by simp [Utf8.encodeChar_ascii hc])
  rw [encode_commaJoined, List.map_map]
  exact runUntil_joined hdelimiter hclose hne hitem rest

/-- Elements are told from the closing octet by their first character. -/
theorem elements_run {c : Char} (hc : c.toNat < 0x80) (hdelimiter : isDelimiter c.toUInt8 = true)
    (hcomma : c ≠ ',') {l : List β} {text : β → List Char} {out : β → Option α}
    (hitem : ∀ b ∈ l, Reads item (text b) (out b))
    (hhead : l ≠ [] → ∃ d t, commaJoined (l.map text) = d :: t ∧ d ≠ c) (rest : Octets) :
    (elements c.toUInt8 unexpected unclosed item).run
        (Utf8.encode (commaJoined (l.map text)) ++ c.toUInt8 :: rest) =
      outcome (l.mapM out) rest := by
  by_cases hne : l = []
  · subst hne
    show (if some c.toUInt8 = some c.toUInt8 then _ else _) = _
    rw [if_pos rfl]
    rfl
  · obtain ⟨d, t, ht, hd⟩ := hhead hne
    have hfirst : (Utf8.encode (commaJoined (l.map text)) ++ c.toUInt8 :: rest).head? ≠
        some c.toUInt8 := by
      rw [ht]
      exact Utf8.head?_encode_ne hc hd t _
    simp only [elements, if_neg hfirst]
    exact runUntil_commaJoined hc hdelimiter hcomma hne hitem rest

end RunUntil

theorem key_quoted (s : Octets) : key.run (Mark.quote.toUInt8 :: s) = quoted.run s := by
  simp only [key, if_true]

theorem key_bare {s : Octets} (h : s.head? ≠ some Mark.quote.toUInt8) :
    key.run s = (token.map String.ofList).run s := by
  cases s with
  | nil => rfl
  | cons b s =>
    have hb : b ≠ Mark.quote.toUInt8 := fun hb => h (congrArg some hb)
    simp only [key, if_neg hb]

theorem key_run (k : String) (rest : Octets) :
    key.run (Utf8.encode (keyChars k) ++ '#'.toUInt8 :: rest) = .ok (k, '#'.toUInt8 :: rest) := by
  rw [keyChars]
  split
  · have hquoted := quoted_run k.toList ('#'.toUInt8 :: rest)
    rw [String.ofList_toList] at hquoted
    rw [quotedChars, Utf8.encode_between (by decide) (by decide), key_quoted]
    exact hquoted
  · rename_i hbare
    simp only [Bool.or_eq_true, beq_iff_eq, not_or, List.any_eq_true, not_exists, not_and,
      Bool.not_eq_true] at hbare
    obtain ⟨hquote, hplain⟩ := hbare
    have htoken : token.run (Utf8.encode k.toList ++ '#'.toUInt8 :: rest) =
        outcome (some k.toList) ('#'.toUInt8 :: rest) :=
      token_run hplain (bounded_cons (by decide) rest)
    have hfirst : (Utf8.encode k.toList ++ '#'.toUInt8 :: rest).head? ≠
        some Mark.quote.toUInt8 := by
      cases hk : k.toList with
      | nil => exact fun h => absurd (Option.some.inj h) (by decide)
      | cons c s =>
        rw [hk] at hquote
        exact Utf8.head?_encode_ne (by decide) (fun hcq => hquote (congrArg some hcq)) s _
    rw [key_bare hfirst, map_run htoken, Option.map_some, String.ofList_toList]
    rfl

theorem entry_reads {p : Reader Value} {k : String} {text : List Char} {out : Option Value}
    (h : Reads p text out) :
    Reads (entry p) (keyChars k ++ '#' :: text) (out.map fun v => (k, v)) := by
  intro rest hrest
  have hsplit : Utf8.encode (keyChars k ++ '#' :: text) ++ rest =
      Utf8.encode (keyChars k) ++ '#'.toUInt8 :: (Utf8.encode text ++ rest) := by
    rw [Utf8.encode_append, Utf8.encode_cons, Utf8.encodeChar_ascii (by decide), List.append_assoc]
    rfl
  rw [hsplit]
  simp only [entry, key_run]
  exact map_run (h rest hrest)

end Reader

end RangeSort
