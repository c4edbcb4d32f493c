import RangeSort.Proofs.Value.Inference
import RangeSort.Proofs.Value.Recognition

/-! What has been read is written in a way that is read the same. -/

namespace RangeSort

/-- What a value may hold so that it is read back as it is. -/
structure Value.Legible (v : Value) : Prop where
  steady : v.Steady
  ascending : ∀ entries, v = .map entries → KeyMap.Ascending entries

theorem Value.legible_of_isAtom {v : Value} (h : Atom.IsAtom v) : v.Legible where
  steady := h.2
  ascending := by
    rintro entries rfl
    cases h.1

mutual

theorem IsValue.legible {level : Nat} {s : Octets} {v : Value} : IsValue level s v →
    ∀ n w, v.Holds n w → level + n ≤ maxLevel ∧ w.Legible
  | .token hlevel _ _, n, w, hw => by
    have hatom := Atom.isAtom_read (Utf8.decode s)
    obtain ⟨rfl, rfl⟩ := hw.eq_self hatom.1
    exact ⟨hlevel, Value.legible_of_isAtom hatom⟩
  | .quoted hlevel _, n, w, hw => by
    obtain ⟨rfl, rfl⟩ := hw.eq_self rfl
    exact ⟨hlevel, trivial, nofun⟩
  | .tuple hlevel h, n, w, hw => by
    cases hw with
    | self => exact ⟨hlevel, trivial, nofun⟩
    | @item _ _ _ n hlone hv hw =>
      obtain ⟨hn, hlegible⟩ := h.legible hlone _ hv n w hw
      exact ⟨by omega, hlegible⟩
  | .bag hlevel parts h, n, w, hw => by
    cases hw with
    | self => exact ⟨hlevel, trivial, nofun⟩
    | @field _ _ _ _ n hr hlone hv hw =>
      obtain ⟨p, hp, rfl⟩ := List.mem_map.mp hr
      obtain ⟨hn, hlegible⟩ := (h p hp).legible hlone _ hv n w hw
      exact ⟨by omega, hlegible⟩
  | .map hlevel parts h, n, w, hw => by
    obtain ⟨hascending, hmem⟩ := KeyMap.ofList_spec (parts.map Prod.snd)
    cases hw with
    | self =>
      refine ⟨hlevel, trivial, fun entries he => ?_⟩
      cases he
      exact hascending
    | @entry _ _ _ n he hw =>
      obtain ⟨p, hp, rfl⟩ := List.mem_map.mp (hmem _ he)
      obtain ⟨hn, hlegible⟩ := (h p hp).legible n w hw
      exact ⟨by omega, hlegible⟩
termination_by structural h => h

theorem IsTuple.legible {level : Nat} {s : Octets} {row : Row} : IsTuple level s row →
    isLoneNull row = false → ∀ v ∈ row, ∀ n w, v.Holds n w →
      level + 1 + n ≤ maxLevel ∧ w.Legible
  | .null _, hlone, _, _, _, _, _ => nomatch hlone
  | .empty _, _, _, hv, _, _, _ => nomatch hv
  | .items parts _ _ h, _, v, hv, n, w, hw => by
    obtain ⟨p, hp, rfl⟩ := List.mem_map.mp hv
    exact (h p hp).legible n w hw
termination_by structural h => h

theorem IsEntry.legible {level : Nat} {s : Octets} {e : String × Value} : IsEntry level s e →
    ∀ n w, e.2.Holds n w → level + n ≤ maxLevel ∧ w.Legible
  | .mk _ h, n, w, hw => h.legible n w hw
termination_by structural h => h

end

/-- Whatever text a composite was read from, its own text is read as the same composite. -/
theorem Value.read_octets_of_read {s : Octets} {v : Value} (hcomposite : v.isComposite = true)
    (h : Value.read s = .ok v) : Value.read v.octets = .ok v := by
  have hvalue := Value.read_eq_ok.mp h
  have hordered : v.Ordered := by
    intro level entries hw
    exact (hvalue.legible level _ hw).2.ascending entries rfl
  have hbelow : v.Below (maxLevel + 1) := by
    intro level w hw
    have hlevel := (hvalue.legible level _ hw).1
    omega
  have hself : v.reread = v := reread_eq_self fun level w hw => (hvalue.legible level w hw).2.steady
  have hrun := reads hordered (maxLevel + 1) [] bounded_nil
  rw [List.append_nil, provided_pos hbelow, hself] at hrun
  rw [octets_of_isComposite hcomposite, read, hrun]
  rfl

/-- A key that comes twice, a suffix in small letters and an escape that is not needed. -/
def respelledMap : Octets := Utf8.encodeText "[k#,k#(1l,\x27\x5cq\x27)]"

theorem isValue_respelledMap :
    IsValue 0 respelledMap (.map [("k", .tuple [.long 1, .text "q"])]) := by
  have hnumber : IsValue 2 (Utf8.encodeText "1l") (.long 1) :=
    .token (by decide) (.of_all (by decide)) (IsOpener.not_head (by decide))
  have htext : IsValue 2 (Utf8.encodeText "\x27\x5cq\x27") (.text "q") :=
    .quoted (by decide) (.escaped _ .close)
  have hnull : IsValue 1 [] .null := .token (by decide) (.of_all (by decide)) nofun
  have htuple : IsValue 1 (Utf8.encodeText "(1l,\x27\x5cq\x27)") (.tuple [.long 1, .text "q"]) :=
    .tuple (by decide) <| .items
      [(Utf8.encodeText "1l", .long 1), (Utf8.encodeText "\x27\x5cq\x27", .text "q")]
      (by decide) (by decide) (by simp [hnumber, htext])
  have hkey : IsKey (Utf8.encodeText "k") "k" := .bare (.of_all (by decide)) (by decide)
  have hentries : ∀ p ∈ [(Utf8.encodeText "k#", "k", Value.null),
      (Utf8.encodeText "k#(1l,\x27\x5cq\x27)", "k", .tuple [.long 1, .text "q"])],
      IsEntry 1 p.1 p.2 := by
    simp only [List.forall_mem_cons, List.not_mem_nil, false_imp_iff, implies_true, and_true]
    exact ⟨.mk hkey hnull, .mk hkey htuple⟩
  exact .map (by decide : 0 ≤ maxLevel) _ hentries

theorem Value.read_octets_of_read_respelledMap :
    ∃ v, Value.read respelledMap = .ok v ∧ v.octets = Utf8.encodeText "[k#(1L,\x27q\x27)]" ∧
      Value.read v.octets = .ok v := by
  have h := Value.read_eq_ok.mpr isValue_respelledMap
  exact ⟨_, h, by decide, Value.read_octets_of_read rfl h⟩

end RangeSort
