import RangeSort.Proofs.Value.Elements

/-! The grammar of values. Every value stands at a level: one below the tuple or the map it is
in, two below the bag. -/

namespace RangeSort

/-- An unquoted run. -/
def IsBare (s : Octets) : Prop :=
  ∀ b ∈ s, Reader.isDelimiter b = false

theorem IsBare.of_all {s : Octets} (h : s.all (fun b => !Reader.isDelimiter b) = true) :
    IsBare s := by
  intro b hb
  simpa using List.all_eq_true.mp h b hb

/-- The octets that no unquoted value starts with. -/
def IsOpener (b : UInt8) : Prop :=
  b = '('.toUInt8 ∨ b = '\x7b'.toUInt8 ∨ b = '['.toUInt8 ∨ b = Mark.quote.toUInt8

instance : DecidablePred IsOpener :=
  fun _ => inferInstanceAs (Decidable (_ ∨ _))

theorem IsOpener.not_head {c : UInt8} {s : Octets} (h : ¬ IsOpener c) :
    ∀ b ∈ (c :: s).head?, ¬ IsOpener b := by
  rintro b ⟨⟩
  exact h

/-- Quoted text after its opening quote, and the octets it stands for. -/
inductive IsQuoted : Octets → Octets → Prop
  | close : IsQuoted [Mark.quote.toUInt8] []
  | plain {b : UInt8} {s body : Octets} (hquote : b ≠ Mark.quote.toUInt8)
      (hescape : b ≠ Mark.escape.toUInt8) (h : IsQuoted s body) : IsQuoted (b :: s) (b :: body)
  | escaped (b : UInt8) {s body : Octets} (h : IsQuoted s body) :
      IsQuoted (Mark.escape.toUInt8 :: b :: s) (b :: body)

inductive IsKey : Octets → String → Prop
  | quoted {s body : Octets} (h : IsQuoted s body) :
      IsKey (Mark.quote.toUInt8 :: s) (Utf8.decodeText body)
  | bare {s : Octets} (h : IsBare s) (hquote : s.head? ≠ some Mark.quote.toUInt8) :
      IsKey s (Utf8.decodeText s)

mutual

/-- The elements of a composite are given as `parts`, each with its text. -/
inductive IsValue : Nat → Octets → Value → Prop
  | token {level : Nat} (hlevel : level ≤ maxLevel) {s : Octets} (h : IsBare s)
      (hopener : ∀ b ∈ s.head?, ¬ IsOpener b) : IsValue level s (Atom.read (Utf8.decode s))
  | quoted {level : Nat} (hlevel : level ≤ maxLevel) {s body : Octets} (h : IsQuoted s body) :
      IsValue level (Mark.quote.toUInt8 :: s) (.text (Utf8.decodeText body))
  | tuple {level : Nat} (hlevel : level ≤ maxLevel) {s : Octets} {row : Row}
      (h : IsTuple level s row) : IsValue level s (.tuple row)
  | bag {level : Nat} (hlevel : level ≤ maxLevel) (parts : List (Octets × Row))
      (h : ∀ p ∈ parts, IsTuple (level + 1) p.1 p.2) :
      IsValue level ('\x7b'.toUInt8 :: (joined (parts.map Prod.fst) ++ ['\x7d'.toUInt8]))
        (.bag (parts.map Prod.snd))
  | map {level : Nat} (hlevel : level ≤ maxLevel) (parts : List (Octets × String × Value))
      (h : ∀ p ∈ parts, IsEntry (level + 1) p.1 p.2) :
      IsValue level ('['.toUInt8 :: (joined (parts.map Prod.fst) ++ [']'.toUInt8]))
        (.map (KeyMap.ofList (parts.map Prod.snd)))

/-- The words for one null, and the empty parentheses for no value, come before the reading
as values between commas. -/
inductive IsTuple : Nat → Octets → Row → Prop
  | null (level : Nat) : IsTuple level (Utf8.encodeText "(null)") [.null]
  | empty (level : Nat) : IsTuple level (Utf8.encodeText "()") []
  | items {level : Nat} (parts : List (Octets × Value))
      (hempty : joined (parts.map Prod.fst) ≠ [])
      (hnull : joined (parts.map Prod.fst) ≠ Utf8.encodeText "null")
      (h : ∀ p ∈ parts, IsValue (level + 1) p.1 p.2) :
      IsTuple level ('('.toUInt8 :: (joined (parts.map Prod.fst) ++ [')'.toUInt8]))
        (parts.map Prod.snd)

inductive IsEntry : Nat → Octets → String × Value → Prop
  | mk {level : Nat} {s t : Octets} {key : String} {v : Value} (hkey : IsKey s key)
      (h : IsValue level t v) : IsEntry level (s ++ '#'.toUInt8 :: t) (key, v)

end

theorem IsValue.level_le {level : Nat} {s : Octets} {v : Value} (h : IsValue level s v) :
    level ≤ maxLevel := by
  cases h <;> assumption

theorem IsTuple.head? {level : Nat} {s : Octets} {row : Row} (h : IsTuple level s row) :
    s.head? = some '('.toUInt8 := by
  cases h <;> rfl

/-- No value starts with a delimiter. -/
theorem IsValue.head_ne {level : Nat} {s : Octets} {v : Value} (h : IsValue level s v) {b : UInt8}
    (hb : Reader.isDelimiter b = true) : s.head? ≠ some b := by
  intro hs
  cases h with
  | token _ h =>
    have := h b (List.mem_of_mem_head? hs)
    exact absurd (hb.symm.trans this) (by decide)
  | quoted | bag | map =>
    cases hs
    revert hb
    decide
  | tuple _ h =>
    rw [h.head?] at hs
    cases hs
    revert hb
    decide

theorem IsEntry.head?_ne {level : Nat} {s : Octets} {e : String × Value} (h : IsEntry level s e) :
    s ≠ [] ∧ s.head? ≠ some ']'.toUInt8 := by
  cases h with
  | @mk _ s _ _ _ hkey =>
    refine ⟨by simp, fun hs => ?_⟩
    cases hkey with
    | quoted => cases hs
    | bare h =>
      cases s with
      | nil => cases hs
      | cons b s =>
        cases hs
        exact absurd (h _ List.mem_cons_self) (by decide)

section Heads

variable {c : UInt8} {texts : List Octets}

theorem joined_ne_nil (h : ∀ t ∈ texts, t ≠ []) (hne : texts ≠ []) : joined texts ≠ [] := by
  obtain ⟨t, texts, rfl⟩ := List.exists_cons_of_ne_nil hne
  have ht := h t List.mem_cons_self
  by_cases hrest : texts = []
  · rwa [hrest, joined_singleton]
  · have hjoined := joined_cons_append t hrest []
    rw [List.append_nil] at hjoined
    rw [hjoined]
    exact List.append_ne_nil_of_left_ne_nil ht _

/-- What starts none of the texts does not start them joined. -/
theorem head?_joined_ne (hc : c ≠ ','.toUInt8) (h : ∀ t ∈ texts, t.head? ≠ some c)
    (hne : joined texts ≠ []) (rest : Octets) : (joined texts ++ rest).head? ≠ some c := by
  cases texts with
  | nil => exact absurd rfl hne
  | cons t texts =>
    have ht := h t List.mem_cons_self
    by_cases hrest : texts = []
    · rw [hrest, joined_singleton] at hne ⊢
      obtain ⟨b, t, rfl⟩ := List.exists_cons_of_ne_nil hne
      exact ht
    · rw [joined_cons_append t hrest]
      cases t with
      | nil => exact fun hs => hc (Option.some.inj hs).symm
      | cons b t => exact ht

end Heads

/-- Only the word for null reads as such in front of a closing parenthesis. -/
theorem IsValue.eq_null {level : Nat} {s rest t : Octets} {v : Value} (h : IsValue level s v)
    (hrest : Bounded rest)
    (he : s ++ rest = Utf8.encodeText "null" ++ ')'.toUInt8 :: t) :
    s = Utf8.encodeText "null" := by
  have hfirst : (s ++ rest).head? = some 'n'.toUInt8 := by
    rw [he]
    rfl
  cases h with
  | token _ h =>
    have hnull : IsBare (Utf8.encodeText "null") := .of_all (by decide)
    have hrun := (Reader.bare_run h hrest).1
    rw [he, (Reader.bare_run hnull (bounded_cons (by decide) t)).1] at hrun
    exact hrun.symm
  | quoted | bag | map => cases hfirst
  | tuple _ h =>
    obtain ⟨s, rfl⟩ := List.head?_eq_some_iff.mp h.head?
    cases hfirst

end RangeSort
