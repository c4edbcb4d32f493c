import RangeSort.Proofs.Value.Recognition

/-! Reading goes forward through its input, and where it stops is a place in it. -/

namespace RangeSort

variable {α β : Type}

namespace Reader

/-- What is left of the input, or what reading stops in front of, is an end of it. -/
structure Within (p : Reader α) : Prop where
  ok {s rest : Octets} {a : α} : p.run s = .ok (a, rest) → rest <:+ s
  fault {s rest : Octets} {cause : Fault} : p.run s = .error (.fault cause rest) → rest <:+ s

theorem within_tooDeep : Within (fail (α := α) .tooDeep) :=
  ⟨nofun, nofun⟩

theorem Within.map {p : Reader α} (h : Within p) (f : α → β) : Within (p.map f) where
  ok hrun := by
    obtain ⟨a, ha, -⟩ := map_eq_ok.mp hrun
    exact h.ok ha
  fault {s rest cause} hrun := by
    simp only [Reader.map] at hrun
    split at hrun
    · cases hrun
      exact h.fault ‹_›
    · cases hrun

theorem within_token : Within token where
  ok hrun := by
    cases hrun
    exact List.dropWhile_suffix _
  fault hrun := nomatch hrun

theorem within_quoted : Within quoted where
  ok hrun := by
    obtain ⟨t, -, rfl, -⟩ := isQuoted_of_quoted_run hrun
    exact List.suffix_append t _
  fault {s rest cause} hrun := by
    simp only [quoted] at hrun
    split at hrun
    · cases hrun
      exact List.nil_suffix
    · cases hrun

theorem within_key : Within key where
  ok hrun := by
    obtain ⟨t, rfl, -⟩ := recognizes_key.sound hrun
    exact List.suffix_append t _
  fault {s rest cause} hrun := by
    by_cases hquote : s.head? = some Mark.quote.toUInt8
    · obtain ⟨s, rfl⟩ := List.head?_eq_some_iff.mp hquote
      rw [key_quoted] at hrun
      exact (within_quoted.fault hrun).trans (List.suffix_cons _ _)
    · rw [key_bare hquote] at hrun
      exact (within_token.map _).fault hrun

theorem Within.entry {p : Reader Value} (h : Within p) : Within (entry p) where
  ok {s rest e} hrun := by
    simp only [Reader.entry] at hrun
    split at hrun
    · cases hrun
    · rename_i hkey
      split at hrun
      · exact ((h.map _).ok hrun).trans ((List.tail_suffix _).trans (within_key.ok hkey))
      · cases hrun
  fault {s rest cause} hrun := by
    simp only [Reader.entry] at hrun
    split at hrun
    · cases hrun
      exact within_key.fault ‹_›
    · rename_i hkey
      split at hrun
      · exact ((h.map _).fault hrun).trans ((List.tail_suffix _).trans (within_key.ok hkey))
      · cases hrun
        exact within_key.ok hkey

section Elements

variable {close : UInt8} {unexpected : UInt8 → Fault} {unclosed : Fault} {item : Reader α}

theorem Within.ok_runUntil (h : Within item) {s rest : Octets} {as : List α}
    (hrun : runUntil close unexpected unclosed item s = .ok (as, rest)) : rest <:+ s := by
  fun_induction runUntil close unexpected unclosed item s generalizing as rest with
  | case1 => cases hrun
  | case2 => cases hrun
  | case3 => cases hrun
  | case4 s a r as rest hmore hitem ih =>
    cases hrun
    exact (ih hmore).trans ((List.suffix_cons _ _).trans (h.ok hitem))
  | case5 s a r hitem =>
    cases hrun
    exact (List.suffix_cons _ _).trans (h.ok hitem)
  | case6 => cases hrun

theorem Within.fault_runUntil (h : Within item) {s rest : Octets} {cause : Fault}
    (hrun : runUntil close unexpected unclosed item s = .error (.fault cause rest)) :
    rest <:+ s := by
  fun_induction runUntil close unexpected unclosed item s with
  | case1 s e hitem =>
    cases hrun
    exact h.fault hitem
  | case2 =>
    cases hrun
    exact List.nil_suffix
  | case3 s a r e hmore hitem ih =>
    cases hrun
    exact (ih hmore).trans ((List.suffix_cons _ _).trans (h.ok hitem))
  | case4 => cases hrun
  | case5 => cases hrun
  | case6 s a b r hitem =>
    cases hrun
    exact h.ok hitem

theorem Within.elements (h : Within item) :
    Within (elements close unexpected unclosed item) where
  ok {s rest as} hrun := by
    simp only [Reader.elements] at hrun
    split at hrun
    · cases hrun
      exact List.tail_suffix s
    · exact h.ok_runUntil hrun
  fault {s rest cause} hrun := by
    simp only [Reader.elements] at hrun
    split at hrun
    · cases hrun
    · exact h.fault_runUntil hrun

end Elements

section Composites

variable {p inner inBag : Reader Value}

theorem Within.tupleTail (h : Within p) : Within (tupleTail p) where
  ok {s rest row} hrun := by
    simp only [Reader.tupleTail] at hrun
    split at hrun
    · cases hrun
      exact List.drop_suffix _ s
    · exact h.elements.ok hrun
  fault {s rest cause} hrun := by
    simp only [Reader.tupleTail] at hrun
    split at hrun
    · cases hrun
    · exact h.elements.fault hrun

theorem Within.tuple (h : Within p) : Within (tuple p) where
  ok {s rest row} hrun := by
    simp only [Reader.tuple] at hrun
    split at hrun
    · exact (h.tupleTail.ok hrun).trans (List.tail_suffix s)
    · cases hrun
  fault {s rest cause} hrun := by
    simp only [Reader.tuple] at hrun
    split at hrun
    · exact (h.tupleTail.fault hrun).trans (List.tail_suffix s)
    · cases hrun
      exact List.suffix_refl s

theorem within_of_choose (hinner : Within inner) (hinBag : Within inBag) {b : UInt8}
    {q : Reader Value} (h : choose inner inBag b = some q) : Within q := by
  unfold choose at h
  split at h
  · cases h
    exact hinner.tupleTail.map _
  · split at h
    · cases h
      exact hinBag.tuple.elements.map _
    · split at h
      · cases h
        exact (hinner.entry.elements.map _).map _
      · split at h
        · cases h
          exact within_quoted.map _
        · cases h

theorem Within.dispatch (hinner : Within inner) (hinBag : Within inBag) :
    Within (dispatch inner inBag) where
  ok {s rest v} hrun := by
    simp only [Reader.dispatch] at hrun
    split at hrun
    · rename_i q hq
      obtain ⟨b, -, hq⟩ := Option.bind_eq_some_iff.mp hq
      exact ((within_of_choose hinner hinBag hq).ok hrun).trans (List.tail_suffix s)
    · exact (within_token.map _).ok hrun
  fault {s rest cause} hrun := by
    simp only [Reader.dispatch] at hrun
    split at hrun
    · rename_i q hq
      obtain ⟨b, -, hq⟩ := Option.bind_eq_some_iff.mp hq
      exact ((within_of_choose hinner hinBag hq).fault hrun).trans (List.tail_suffix s)
    · exact (within_token.map _).fault hrun

theorem within_value (n : Nat) : Within (value n) := by
  induction n using Nat.strongRecOn with
  | _ n ih =>
    cases n with
    | zero => exact within_tooDeep
    | succ n =>
      have hdispatch := (ih n (by omega)).dispatch (ih (n - 1) (by omega))
      refine ⟨fun hrun => ?_, fun hrun => ?_⟩
      · rw [value_succ] at hrun
        exact hdispatch.ok hrun
      · rw [value_succ] at hrun
        exact hdispatch.fault hrun

end Composites

end Reader

/-- A text has at most one value, the one that is read. Reading any other text stops at a place
in it or at a value that lies too deep. -/
theorem Value.read_grammar (s : Octets) :
    (∀ v, Value.read s = .ok v ↔ IsValue 0 s v) ∧
    (∀ v w, IsValue 0 s v → IsValue 0 s w → v = w) ∧
    ((∀ v, ¬ IsValue 0 s v) →
      Value.read s = .error .tooDeep ∨
        ∃ position cause rest, Value.read s = .error (.malformed position cause) ∧
          rest <:+ s ∧ position + rest.length = s.length) := by
  refine ⟨fun v => Value.read_eq_ok, fun v w hv hw => ?_, fun hnone => ?_⟩
  · rw [← Value.read_eq_ok] at hv hw
    exact Except.ok.inj (hv.symm.trans hw)
  · have hwithin := Reader.within_value (maxLevel + 1)
    have hplace {rest : Octets} (h : rest <:+ s) :
        rest <:+ s ∧ s.length - rest.length + rest.length = s.length :=
      ⟨h, Nat.sub_add_cancel h.length_le⟩
    cases hrun : (Reader.value (maxLevel + 1)).run s with
    | error e =>
      cases e with
      | tooDeep => exact .inl (by simp only [Value.read, hrun])
      | fault cause rest =>
        exact .inr ⟨_, cause, rest, by simp only [Value.read, hrun], hplace (hwithin.fault hrun)⟩
    | ok out =>
      obtain ⟨v, rest⟩ := out
      cases hrest : rest.isEmpty with
      | true =>
        have hread : Value.read s = .ok v := by simp only [Value.read, hrun, hrest, if_true]
        exact absurd (Value.read_eq_ok.mp hread) (hnone v)
      | false =>
        refine .inr ⟨_, .trailing, rest, ?_, hplace (hwithin.ok hrun)⟩
        simp only [Value.read, hrun, hrest, Bool.false_eq_true, if_false]

end RangeSort
