import RangeSort.Converter
import RangeSort.Proofs.Schema.RowAccount
import RangeSort.Proofs.Value.Recognition

/-! Rows that go through the same converter. None of them is coerced differently because of what
the converter did before, and their warnings follow those from before. -/

namespace RangeSort

/-- Nothing that a parser was given before matters. -/
theorem Parser.parse_fst (p : Parser) (octets : Octets) : (p.parse octets).1 = Value.read octets :=
  rfl

namespace Converter

/-- Whatever the converter did before, a value is coerced the same and its warnings are added. -/
theorem coerce_eq (c : Converter) (kind : Kind) (octets : Option Octets) :
    ∃ p, c.coerce kind octets = ((RangeSort.coerce kind octets).result,
      ⟨p, c.warnings ++ (RangeSort.coerce kind octets).warnings⟩) := by
  cases octets with
  | none => exact ⟨c.parser, by simp [coerce, RangeSort.coerce, Coerced.value]⟩
  | some b =>
    by_cases hkind : kind.isComposite = true
    · refine ⟨(c.parser.parse b).2, ?_⟩
      rw [coerce, if_pos hkind, RangeSort.coerce, Coerced.present_composite hkind,
        ← c.parser.parse_fst b]
      rfl
    · refine ⟨c.parser, ?_⟩
      rw [coerce, if_neg hkind]
      rfl

theorem coerceFields_eq (c : Converter) (fs : List Field) (raw : List (Option Octets)) :
    ∃ p, c.coerceFields fs raw = ((RangeSort.coerceFields fs raw).result,
      ⟨p, c.warnings ++ (RangeSort.coerceFields fs raw).warnings⟩) := by
  induction fs generalizing c raw with
  | nil => exact ⟨c.parser, by simp [coerceFields, RangeSort.coerceFields]⟩
  | cons f fs ih =>
    obtain ⟨p, hcoerce⟩ := c.coerce_eq f.kind (raw.head?.getD none)
    rw [← join_getElem?_zero] at hcoerce
    cases hfirst : (RangeSort.coerce f.kind raw[0]?.join).result with
    | error e =>
      rw [hfirst, warnings_of_error hfirst] at hcoerce
      refine ⟨p, ?_⟩
      rw [coerceFields_of_error hfirst, coerceFields, ← join_getElem?_zero, hcoerce]
    | ok v =>
      rw [hfirst] at hcoerce
      obtain ⟨q, hrest⟩ := ih ⟨p, c.warnings ++ (RangeSort.coerce f.kind raw[0]?.join).warnings⟩ raw.tail
      refine ⟨q, ?_⟩
      rw [coerceFields_of_ok hfirst, coerceFields, ← join_getElem?_zero, hcoerce]
      simp only [hrest, List.append_assoc]

theorem coerceRow_eq (c : Converter) (s : Schema) (raw : List (Option Octets)) :
    ∃ p, c.coerceRow s raw =
      ((s.coerceRow raw).result, ⟨p, c.warnings ++ (s.coerceRow raw).warnings⟩) :=
  c.coerceFields_eq s.fields raw

/-- Rows do not reach into each other. -/
theorem coerceRows_eq (c : Converter) (s : Schema) (rows : List (List (Option Octets))) :
    (c.coerceRows s rows).1 = rows.map (fun raw => (s.coerceRow raw).result) ∧
      (c.coerceRows s rows).2.warnings =
        c.warnings ++ rows.flatMap fun raw => (s.coerceRow raw).warnings := by
  induction rows generalizing c with
  | nil => exact ⟨rfl, (List.append_nil _).symm⟩
  | cons raw rows ih =>
    obtain ⟨p, hrow⟩ := c.coerceRow_eq s raw
    obtain ⟨hresults, hwarnings⟩ := ih ⟨p, c.warnings ++ (s.coerceRow raw).warnings⟩
    rw [coerceRows, hrow]
    refine ⟨congrArg _ hresults, hwarnings.trans ?_⟩
    rw [List.flatMap_cons, List.append_assoc]

/-- Whatever the converter did before, a row has its account, and the warnings of the row follow
those from before. A field gives none for null, text, octets and composites; a scalar gives one
when it becomes null, and never two. -/
theorem coerceRow_accounts (c : Converter) (s : Schema) (raw : List (Option Octets)) :
    (∃ own, (c.coerceRow s raw).2.warnings = c.warnings ++ own ∧
      RowAccount s.fields raw ⟨(c.coerceRow s raw).1, own⟩) ∧
    ∀ (kind : Kind) (octets : Option Octets),
      (octets = none → RangeSort.coerce kind octets = .value .null) ∧
      (kind.isScalar = false → (RangeSort.coerce kind octets).warnings = []) ∧
      (RangeSort.coerce kind octets).warnings.length ≤ 1 ∧
      (octets ≠ none → kind.isScalar = true → (RangeSort.coerce kind octets).result = .ok .null →
        (RangeSort.coerce kind octets).warnings.length = 1) := by
  constructor
  · obtain ⟨p, hrow⟩ := c.coerceRow_eq s raw
    rw [hrow]
    exact ⟨_, rfl, coerceFields_account s.fields raw⟩
  · intro kind octets
    cases octets with
    | none => exact ⟨fun _ => rfl, fun _ => rfl, Nat.zero_le 1, fun h => absurd rfl h⟩
    | some b =>
      refine ⟨nofun, Coerced.warnings_present, ?_,
        fun _ hkind => (Coerced.interpreted_present hkind).length_of_null⟩
      cases hkind : kind.isScalar with
      | true => exact (Coerced.interpreted_present hkind).length_le
      | false => simp [RangeSort.coerce, Coerced.warnings_present hkind]

/-- The warnings of the field behind the one that fails are not given. -/
theorem coerceRow_accounts_refused :
    let s : Schema := ⟨0, [⟨none, .int, none, none⟩, ⟨none, .bag, none, none⟩,
      ⟨none, .boolean, none, none⟩], [], []⟩
    let raw := [some (Utf8.encodeText "ten"), some (Utf8.encodeText "x"), some (Utf8.encodeText "y")]
    let used : Converter := ⟨⟨Utf8.encodeText "(", 1⟩, [.tooLarge .int 0]⟩
    (∃ e, (used.coerceRow s raw).1 = .error e ∧ Kind.bag.Refuses (some (Utf8.encodeText "x")) e) ∧
      (used.coerceRow s raw).2.warnings = [.tooLarge .int 0, .noInteger "ten" .int .digit] ∧
      (RangeSort.coerce .boolean (some (Utf8.encodeText "y"))).warnings.length = 1 := by
  intro s raw used
  have hread : Value.read (Utf8.encodeText "x") = .ok (.text "x") :=
    Value.read_eq_ok.mpr (.token (by decide) (.of_all (by decide)) (IsOpener.not_head (by decide)))
  have hbag : Kind.bag.Refuses (some (Utf8.encodeText "x")) (.wrongKind .bag .text) :=
    .otherKind rfl hread nofun nofun
  obtain ⟨⟨own, hown, haccount⟩, hfield⟩ := used.coerceRow_accounts s raw
  obtain ⟨e, he⟩ := haccount.fails_iff.mpr ⟨1, _, _, rfl, hbag⟩
  obtain ⟨i, f, hf, hrefuses, hbefore, hwarnings⟩ := haccount.leftmost e he
  have hi : i = 1 := by
    match i with
    | 0 =>
      cases hf
      rcases hrefuses with ⟨h, -⟩ | ⟨h, -⟩ <;> cases h
    | 1 => rfl
    | i + 2 => exact absurd hbag (hbefore 1 (by omega) _ _ rfl)
  subst hi
  cases hf
  have hwarned : fieldWarnings (s.fields.take 1) raw = [.noInteger "ten" .int .digit] := by
    decide
  have hten : own = [.noInteger "ten" .int .digit] := hwarnings.trans hwarned
  refine ⟨⟨e, he, hrefuses⟩, ?_, ?_⟩
  · rw [hown, hten]
    rfl
  · obtain ⟨-, -, -, hexact⟩ := hfield .boolean (some (Utf8.encodeText "y"))
    exact hexact nofun rfl rfl

end Converter

end RangeSort
