import RangeSort.Partition.Grouping

/-! Grouping by counting. The cursor of a partition walks down from its end to its start
while its rows are placed from the last to the first, and no cursor leaves the places of
its own partition. -/

namespace RangeSort

/-- The indices paired with `p`, in their order. -/
def indicesOf (p : Nat) (pairs : List (Nat × Nat)) : List Nat :=
  (pairs.filter fun x => x.1 == p).map Prod.snd

/-- How many of the ids are below `p`; the places of partition `p` start there. -/
def below (ids : List Nat) (p : Nat) : Nat :=
  ids.countP fun q => q < p

theorem below_succ (ids : List Nat) (p : Nat) : below ids (p + 1) = below ids p + ids.count p := by
  induction ids with
  | nil => rfl
  | cons q ids ih =>
    simp only [below, List.countP_cons, List.count_cons] at ih ⊢
    rcases Nat.lt_trichotomy q p with h | rfl | h <;> simp <;> grind

theorem below_mono (ids : List Nat) {p q : Nat} (h : p ≤ q) : below ids p ≤ below ids q :=
  List.countP_mono_left fun r _ hr => by
    simp only [decide_eq_true_eq] at hr ⊢
    omega

theorem below_le_length (ids : List Nat) (p : Nat) : below ids p ≤ ids.length :=
  List.countP_le_length

namespace Grouping

theorem getElem?_foldl_modify (ids : List Nat) (a : Array Nat) (p : Nat) :
    (ids.foldl (fun a q => a.modify q (· + 1)) a)[p]? = a[p]?.map (· + ids.count p) := by
  induction ids generalizing a with
  | nil => simp
  | cons q ids ih =>
    rw [List.foldl_cons, ih, Array.getElem?_modify, List.count_cons]
    by_cases h : q = p
    · subst h
      cases a[q]? with
      | none => simp
      | some n => simp [Nat.add_right_comm, Nat.add_assoc]
    · simp [h]

theorem counts_toList (ids : List Nat) (parts : Nat) :
    (counts ids parts).toList = (List.range (parts + 1)).map fun p => ids.count p := by
  apply List.ext_getElem?
  intro p
  rw [Array.getElem?_toList, counts, getElem?_foldl_modify, List.getElem?_map]
  by_cases h : p < parts + 1 <;> simp [h]

theorem runningTotals_counts (ids : List Nat) (p n : Nat) :
    runningTotals (below ids p) ((List.range' p n).map fun q => ids.count q) =
      (List.range' p n).map fun q => below ids (q + 1) := by
  induction n generalizing p with
  | zero => rfl
  | succ n ih =>
    rw [List.range'_succ, List.map_cons, List.map_cons, runningTotals, ← below_succ, ih]

def slice (rows : Array Nat) (low high : Nat) : List Nat :=
  (rows.extract low high).toList

theorem slice_eq (rows : Array Nat) (low high : Nat) :
    slice rows low high = (rows.toList.drop low).take (high - low) := by
  rw [slice, Array.toList_extract, List.extract_eq_take_drop]

theorem slice_set_of_outside {rows : Array Nat} {low high place : Nat} (index : Nat)
    (h : place < low ∨ high ≤ place) :
    slice (rows.setIfInBounds place index) low high = slice rows low high := by
  rw [slice_eq, slice_eq, Array.toList_setIfInBounds, List.drop_set]
  split
  · rfl
  · rw [List.take_set_of_le (by omega)]

theorem slice_set_at_low {rows : Array Nat} {low high : Nat} (index : Nat)
    (hlow : low < high) (hsize : low < rows.size) :
    slice (rows.setIfInBounds low index) low high = index :: slice rows (low + 1) high := by
  have hd := List.drop_eq_getElem_cons (l := rows.toList) (i := low) hsize
  obtain ⟨n, hn⟩ : ∃ n, high - low = n + 1 := ⟨high - low - 1, by omega⟩
  rw [slice_eq, slice_eq, Array.toList_setIfInBounds, List.drop_set, if_neg (Nat.lt_irrefl _),
    hd, Nat.sub_self, List.set_cons_zero, hn, List.take_succ_cons, show high - (low + 1) = n by omega]

theorem indicesOf_cons_self (p index : Nat) (done : List (Nat × Nat)) :
    indicesOf p ((p, index) :: done) = index :: indicesOf p done := by
  simp [indicesOf]

theorem indicesOf_cons_of_ne {p q : Nat} (h : q ≠ p) (index : Nat) (done : List (Nat × Nat)) :
    indicesOf p ((q, index) :: done) = indicesOf p done := by
  simp [indicesOf, h]

/-- The first taken place of partition `p` when the rows in `done` are placed. -/
def firstTaken (ids : List Nat) (done : List (Nat × Nat)) (p : Nat) : Nat :=
  below ids (p + 1) - (indicesOf p done).length

/-- What holds once the rows in `done` are placed: the cursor of a partition is at the first
of its places that is taken, and those hold its rows in their order. -/
structure Placed (ids : List Nat) (parts : Nat) (done : List (Nat × Nat))
    (cursors rows : Array Nat) : Prop where
  size_cursors : cursors.size = parts + 1
  size_rows : rows.size = ids.length
  room : ∀ p, (indicesOf p done).length ≤ ids.count p
  cursor : ∀ p ≤ parts, cursors[p]? = some (firstTaken ids done p)
  segment : ∀ p ≤ parts,
    slice rows (firstTaken ids done p) (below ids (p + 1)) = indicesOf p done

theorem placed_nil (ids : List Nat) (parts : Nat) :
    Placed ids parts [] (runningTotals 0 (counts ids parts).toList).toArray
      (Array.replicate ids.length 0) := by
  have hb : below ids 0 = 0 := by simp [below]
  have he := runningTotals_counts ids 0 (parts + 1)
  rw [hb, ← List.range_eq_range', ← counts_toList] at he
  refine ⟨?_, ?_, fun p => ?_, fun p hp => ?_, fun p _ => ?_⟩
  · simp [he]
  · simp
  · exact Nat.zero_le _
  · rw [he, List.getElem?_toArray, List.getElem?_map, List.getElem?_range (by omega)]
    rfl
  · have hs := slice_eq (Array.replicate ids.length 0) (below ids (p + 1)) (below ids (p + 1))
    rw [Nat.sub_self, List.take_zero] at hs
    exact hs

/-- Placing one more row keeps the places of every partition in order, as long as the
partition has room. -/
theorem Placed.place {ids : List Nat} {parts part index : Nat} {done : List (Nat × Nat)}
    {cursors rows : Array Nat} (h : Placed ids parts done cursors rows) (hpart : part ≤ parts)
    (hroom : (indicesOf part done).length < ids.count part) :
    Placed ids parts ((part, index) :: done) (place cursors rows part index).1
      (place cursors rows part index).2 := by
  have hsucc := below_succ ids part
  have hend := below_le_length ids (part + 1)
  have hfirst : firstTaken ids ((part, index) :: done) part + 1 = firstTaken ids done part := by
    simp only [firstTaken, indicesOf_cons_self, List.length_cons]
    omega
  have hother {p : Nat} (hp : part ≠ p) :
      firstTaken ids ((part, index) :: done) p = firstTaken ids done p := by
    rw [firstTaken, indicesOf_cons_of_ne hp, firstTaken]
  have hlt : firstTaken ids done part ≤ below ids (part + 1) := Nat.sub_le _ _
  have hcur : cursors.getD part 0 - 1 = firstTaken ids ((part, index) :: done) part := by
    rw [Array.getD_eq_getD_getElem?, h.cursor part hpart, Option.getD_some]
    omega
  simp only [Grouping.place, hcur]
  refine ⟨by simp [h.size_cursors], by simp [h.size_rows], fun p => ?_, fun p hp => ?_,
    fun p hp => ?_⟩
  · by_cases he : part = p
    · rw [← he, indicesOf_cons_self, List.length_cons]
      omega
    · rw [indicesOf_cons_of_ne he]
      exact h.room p
  · by_cases he : part = p
    · rw [← he, Array.getElem?_setIfInBounds_self_of_lt (by rw [h.size_cursors]; omega)]
    · rw [Array.getElem?_setIfInBounds_ne he, hother he, h.cursor p hp]
  · by_cases he : part = p
    · rw [← he, slice_set_at_low index (by omega) (by rw [h.size_rows]; omega),
        indicesOf_cons_self, hfirst, h.segment part hpart]
    · -- the places of two partitions do not overlap
      have hsuccp := below_succ ids p
      have hroomp := h.room p
      have hapart : below ids (part + 1) ≤ below ids p ∨ below ids (p + 1) ≤ below ids part := by
        rcases Nat.lt_or_gt_of_ne he with hlt | hlt
        · exact .inl (below_mono ids hlt)
        · exact .inr (below_mono ids hlt)
      have hlow : below ids p ≤ firstTaken ids done p := by
        simp only [firstTaken]
        omega
      have hlow' : below ids part ≤ firstTaken ids ((part, index) :: done) part := by
        simp only [firstTaken, indicesOf_cons_self, List.length_cons]
        omega
      rw [indicesOf_cons_of_ne he, hother he, slice_set_of_outside index (by omega),
        h.segment p hp]

theorem length_indicesOf_zipIdx (p : Nat) (ids : List Nat) (n : Nat) :
    (indicesOf p (ids.zipIdx n)).length = ids.count p := by
  induction ids generalizing n with
  | nil => rfl
  | cons q ids ih =>
    rw [List.zipIdx_cons, List.count_cons]
    by_cases h : q = p
    · rw [h, indicesOf_cons_self, List.length_cons, ih]
      simp
    · rw [indicesOf_cons_of_ne h, ih]
      simp [h]

/-- The row in front of those that are placed is one of its partition that is not. -/
theorem next_row {ids : List Nat} {part index : Nat} {before done : List (Nat × Nat)}
    (h : before ++ (part, index) :: done = ids.zipIdx) :
    part ∈ ids ∧ index < ids.length ∧ (indicesOf part done).length < ids.count part := by
  have hx : (part, index) ∈ ids.zipIdx := h ▸ by simp
  have hs : ((part, index) :: done).Sublist ids.zipIdx := h ▸ List.sublist_append_right before _
  have hl := ((hs.filter fun x => x.1 == part).map Prod.snd).length_le
  change (indicesOf part ((part, index) :: done)).length ≤ (indicesOf part ids.zipIdx).length at hl
  rw [indicesOf_cons_self, length_indicesOf_zipIdx] at hl
  exact ⟨List.fst_mem_of_mem_zipIdx hx, by simpa using List.snd_lt_of_mem_zipIdx hx, hl⟩

theorem placed_foldr {ids : List Nat} {parts : Nat} (hids : ∀ p ∈ ids, p ≤ parts)
    (done before : List (Nat × Nat)) (h : before ++ done = ids.zipIdx) :
    let placed := done.foldr (fun (part, index) (cursors, rows) => place cursors rows part index)
      ((runningTotals 0 (counts ids parts).toList).toArray, Array.replicate ids.length 0)
    Placed ids parts done placed.1 placed.2 := by
  induction done generalizing before with
  | nil => exact placed_nil ids parts
  | cons x done ih =>
    obtain ⟨part, index⟩ := x
    obtain ⟨hpart, -, hroom⟩ := next_row h
    exact (ih (before ++ [(part, index)]) (by simp [h])).place (hids part hpart) hroom

theorem placed_ofIds {ids : List Nat} {parts : Nat} (hids : ∀ p ∈ ids, p < parts) :
    Placed ids parts ids.zipIdx (ofIds ids parts).starts (ofIds ids parts).rows :=
  placed_foldr (fun p hp => Nat.le_of_lt (hids p hp)) ids.zipIdx [] rfl

variable {ids : List Nat} {parts : Nat}

theorem parts_ofIds (hids : ∀ p ∈ ids, p < parts) : (ofIds ids parts).parts = parts := by
  rw [Grouping.parts, (placed_ofIds hids).size_cursors, Nat.add_sub_cancel]

theorem starts_ofIds (hids : ∀ p ∈ ids, p < parts) {p : Nat} (hp : p ≤ parts) :
    (ofIds ids parts).starts[p]? = some (below ids p) := by
  rw [(placed_ofIds hids).cursor p hp, firstTaken, length_indicesOf_zipIdx, below_succ,
    Nat.add_sub_cancel]

/-- The rows of a partition are the places of its id, in their order. -/
theorem rowsOf_ofIds (hids : ∀ p ∈ ids, p < parts) {p : Nat} (hp : p < parts) :
    (ofIds ids parts).rowsOf p = indicesOf p ids.zipIdx := by
  have hs := (placed_ofIds hids).segment p (Nat.le_of_lt hp)
  rw [firstTaken, length_indicesOf_zipIdx, below_succ, Nat.add_sub_cancel, ← below_succ] at hs
  rw [rowsOf, starts_ofIds hids (Nat.le_of_lt hp), starts_ofIds hids hp]
  exact hs

theorem rowsOf_of_parts_le (hids : ∀ p ∈ ids, p < parts) {p : Nat} (hp : parts ≤ p) :
    (ofIds ids parts).rowsOf p = [] := by
  have hn : (ofIds ids parts).starts[p + 1]? = none := by
    rw [Array.getElem?_eq_none]
    rw [(placed_ofIds hids).size_cursors]
    omega
  rw [rowsOf, hn]
  split <;> simp_all

end Grouping

end RangeSort
