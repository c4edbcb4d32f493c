import Mathlib.Data.List.Nodup
import RangeSort.Proofs.Partition.GlobalSort

/-! Grouping with counters of 32 bits. Every step has room for what it does, as long as the rows
can be counted in a word: no counter overflows, no cursor passes its partition's start, and no
place lies outside the rows. What comes out is the exact grouping of the rows by their ids. -/

namespace RangeSort

theorem mem_indicesOf_zipIdx {ids : List Nat} {p i : Nat} :
    i ∈ indicesOf p ids.zipIdx ↔ ids[i]? = some p := by
  simp only [indicesOf, List.mem_map, List.mem_filter, List.mem_zipIdx_iff_getElem?, beq_iff_eq]
  constructor
  · rintro ⟨⟨q, j⟩, ⟨hget, rfl⟩, rfl⟩
    exact hget
  · intro hget
    exact ⟨(p, i), ⟨hget, rfl⟩, rfl⟩

theorem pairwise_indicesOf_zipIdx (p : Nat) (ids : List Nat) :
    (indicesOf p ids.zipIdx).Pairwise (· < ·) := by
  have hall : (ids.zipIdx.map Prod.snd).Pairwise (· < ·) := by
    rw [List.zipIdx_map_snd]
    exact List.pairwise_lt_range'
  exact hall.sublist (List.filter_sublist.map Prod.snd)

theorem below_of_forall_lt {ids : List Nat} {n : Nat} (h : ∀ p ∈ ids, p < n) :
    below ids n = ids.length := by
  rw [below, List.countP_eq_length]
  intro p hp
  exact decide_eq_true (h p hp)

namespace Grouping

/-- Counts one more row where there is a counter that is not full. -/
def tally? (counters : Array Nat) (part : Nat) : Option (Array Nat) :=
  if counters[part]?.any (· + 1 < UInt32.size) then some (counters.modify part (· + 1)) else none

def counts? (ids : List Nat) (parts : Nat) : Option (Array Nat) :=
  ids.foldlM tally? (Array.replicate (parts + 1) 0)

/-- Adds up as long as the sums are words. -/
def runningTotals? (total : Nat) : List Nat → Option (List Nat)
  | [] => some []
  | n :: ns =>
    if total + n < UInt32.size then (runningTotals? (total + n) ns).map ((total + n) :: ·)
    else none

/-- Places a row of a word's index where the cursor can step back to a place among the rows. -/
def place? (cursors rows : Array Nat) (part index : Nat) : Option (Array Nat × Array Nat) :=
  if cursors[part]?.any (fun cursor => 0 < cursor ∧ cursor - 1 < rows.size) ∧ index < UInt32.size
  then some (place cursors rows part index)
  else none

/-- Grouping that gives up where a step has no room. -/
def ofIds? (ids : List Nat) (parts : Nat) : Option Grouping := do
  let counters ← counts? ids parts
  let ends ← runningTotals? 0 counters.toList
  let placed ← ids.zipIdx.foldrM (fun (part, index) (cursors, rows) => place? cursors rows part index)
    (ends.toArray, Array.replicate ids.length 0)
  return ⟨ids, placed.1, placed.2⟩

theorem foldlM_tally? (ids : List Nat) (counters : Array Nat)
    (h : ∀ p ∈ ids, ∃ n, counters[p]? = some n ∧ n + ids.count p < UInt32.size) :
    ids.foldlM tally? counters = some (ids.foldl (fun c p => c.modify p (· + 1)) counters) := by
  induction ids generalizing counters with
  | nil => rfl
  | cons p ids ih =>
    obtain ⟨n, hn, hword⟩ := h p List.mem_cons_self
    rw [List.count_cons_self] at hword
    have htally : tally? counters p = some (counters.modify p (· + 1)) := by
      rw [tally?, hn, if_pos]
      simpa using (by omega : n + 1 < UInt32.size)
    rw [List.foldlM_cons, htally, List.foldl_cons]
    refine ih _ fun q hq => ?_
    obtain ⟨m, hm, hword'⟩ := h q (List.mem_cons_of_mem p hq)
    by_cases hpq : p = q
    · subst hpq
      refine ⟨m + 1, by rw [Array.getElem?_modify, hm]; simp, ?_⟩
      rw [List.count_cons_self] at hword'
      omega
    · refine ⟨m, by rw [Array.getElem?_modify, if_neg hpq, hm], ?_⟩
      rwa [List.count_cons_of_ne hpq] at hword'

variable {ids : List Nat} {parts : Nat}

theorem counts?_eq (hlength : ids.length < UInt32.size) (hids : ∀ p ∈ ids, p < parts) :
    counts? ids parts = some (counts ids parts) := by
  refine foldlM_tally? ids _ fun p hp => ⟨0, ?_, ?_⟩
  · have := hids p hp
    simp only [Array.getElem?_replicate]
    rw [if_pos (by omega)]
  · have : ids.count p ≤ ids.length := List.count_le_length
    omega

theorem runningTotals?_eq (total : Nat) (ns : List Nat)
    (h : ∀ sum ∈ runningTotals total ns, sum < UInt32.size) :
    runningTotals? total ns = some (runningTotals total ns) := by
  induction ns generalizing total with
  | nil => rfl
  | cons n ns ih =>
    obtain ⟨hfirst, hrest⟩ := List.forall_mem_cons.mp h
    rw [runningTotals?, if_pos hfirst, ih (total + n) hrest]
    rfl

theorem runningTotals?_counts (hlength : ids.length < UInt32.size) :
    runningTotals? 0 (counts ids parts).toList = some (runningTotals 0 (counts ids parts).toList) := by
  have hzero : below ids 0 = 0 := by simp [below]
  have htotals := runningTotals_counts ids 0 (parts + 1)
  rw [hzero, ← List.range_eq_range', ← counts_toList] at htotals
  refine runningTotals?_eq 0 _ fun sum hsum => ?_
  rw [htotals] at hsum
  obtain ⟨p, -, rfl⟩ := List.mem_map.mp hsum
  exact Nat.lt_of_le_of_lt (below_le_length ids (p + 1)) hlength

/-- A partition that has a row left has a place left for it. -/
theorem Placed.place?_eq {part index : Nat} {done : List (Nat × Nat)} {cursors rows : Array Nat}
    (h : Placed ids parts done cursors rows) (hpart : part ≤ parts)
    (hroom : (indicesOf part done).length < ids.count part) (hindex : index < UInt32.size) :
    place? cursors rows part index = some (Grouping.place cursors rows part index) := by
  have hsucc := below_succ ids part
  have hend := below_le_length ids (part + 1)
  have hsize := h.size_rows
  have hcursor : 0 < firstTaken ids done part ∧ firstTaken ids done part - 1 < rows.size := by
    simp only [firstTaken]
    omega
  rw [place?, h.cursor part hpart, if_pos]
  exact ⟨by simpa using hcursor, hindex⟩

theorem foldrM_place? (hlength : ids.length < UInt32.size) (hids : ∀ p ∈ ids, p ≤ parts)
    (done before : List (Nat × Nat)) (h : before ++ done = ids.zipIdx) :
    done.foldrM (fun (part, index) (cursors, rows) => place? cursors rows part index)
        ((runningTotals 0 (counts ids parts).toList).toArray, Array.replicate ids.length 0) =
      some (done.foldr (fun (part, index) (cursors, rows) => Grouping.place cursors rows part index)
        ((runningTotals 0 (counts ids parts).toList).toArray, Array.replicate ids.length 0)) := by
  -- Rows are placed from the last one on: what is placed is a suffix, and the invariant of the
  -- unchecked run holds for it.
  induction done generalizing before with
  | nil => rfl
  | cons x done ih =>
    obtain ⟨part, index⟩ := x
    obtain ⟨hpart, hindex, hroom⟩ := next_row h
    have hbefore : (before ++ [(part, index)]) ++ done = ids.zipIdx := by simp [h]
    have hplaced := placed_foldr hids done _ hbefore
    rw [List.foldrM_cons, ih _ hbefore]
    exact hplaced.place?_eq (hids part hpart) hroom (Nat.lt_trans hindex hlength)

/-- No step of the grouping lacks room. -/
theorem ofIds?_eq (hlength : ids.length < UInt32.size) (hids : ∀ p ∈ ids, p < parts) :
    ofIds? ids parts = some (ofIds ids parts) := by
  have hplaced := foldrM_place? hlength (fun p hp => Nat.le_of_lt (hids p hp)) ids.zipIdx [] rfl
  rw [ofIds?, counts?_eq hlength hids]
  simp only [Option.bind_eq_bind, Option.bind_some, runningTotals?_counts hlength, hplaced]
  rfl

/-- What it is to group rows by their ids. -/
structure Groups (ids : List Nat) (parts : Nat) (g : Grouping) : Prop where
  ids_eq : g.ids = ids
  parts_eq : g.parts = parts
  size_starts : g.starts.size = parts + 1
  starts_zero : g.starts[0]? = some 0
  starts_parts : g.starts[parts]? = some ids.length
  starts_ascend : g.starts.toList.Pairwise (· ≤ ·)
  size_rows : g.rows.size = ids.length
  mem_rowsOf : ∀ p < parts, ∀ i, i ∈ g.rowsOf p ↔ ids[i]? = some p
  rowsOf_ascend : ∀ p < parts, (g.rowsOf p).Pairwise (· < ·)
  rowsOf_past : ∀ p, parts ≤ p → g.rowsOf p = []
  perm : ((List.range parts).flatMap g.rowsOf).Perm (List.range ids.length)

theorem starts_toList_ofIds (hids : ∀ p ∈ ids, p < parts) :
    (ofIds ids parts).starts.toList = (List.range (parts + 1)).map (below ids) := by
  apply List.ext_getElem?
  intro p
  rw [Array.getElem?_toList, List.getElem?_map]
  by_cases hp : p < parts + 1
  · rw [starts_ofIds hids (Nat.le_of_lt_succ hp), List.getElem?_range hp]
    rfl
  · have hsize := (placed_ofIds hids).size_cursors
    rw [Array.getElem?_eq_none (by omega), List.getElem?_eq_none (by simpa using hp)]
    rfl

theorem perm_rowsOf_ofIds (hids : ∀ p ∈ ids, p < parts) :
    ((List.range parts).flatMap (ofIds ids parts).rowsOf).Perm (List.range ids.length) := by
  have hrows {p : Nat} (hp : p ∈ List.range parts) :
      (ofIds ids parts).rowsOf p = indicesOf p ids.zipIdx :=
    rowsOf_ofIds hids (List.mem_range.mp hp)
  rw [List.flatMap_congr fun p => hrows]
  have hnodup : ((List.range parts).flatMap fun p => indicesOf p ids.zipIdx).Nodup := by
    refine List.nodup_flatMap.mpr ⟨fun p _ => (pairwise_indicesOf_zipIdx p ids).imp Nat.ne_of_lt, ?_⟩
    refine List.nodup_range.imp fun hne i hi hi' => hne ?_
    rw [mem_indicesOf_zipIdx] at hi hi'
    exact Option.some.inj (hi.symm.trans hi')
  refine (List.perm_ext_iff_of_nodup hnodup List.nodup_range).mpr fun i => ?_
  simp only [List.mem_flatMap, mem_indicesOf_zipIdx, List.mem_range]
  constructor
  · rintro ⟨p, -, hp⟩
    exact (List.getElem?_eq_some_iff.mp hp).1
  · intro hi
    exact ⟨ids[i], hids _ (List.getElem_mem hi), List.getElem?_eq_getElem hi⟩

theorem groups_ofIds (hids : ∀ p ∈ ids, p < parts) : Groups ids parts (ofIds ids parts) where
  ids_eq := rfl
  parts_eq := parts_ofIds hids
  size_starts := (placed_ofIds hids).size_cursors
  starts_zero := by
    rw [starts_ofIds hids (Nat.zero_le parts)]
    simp [below]
  starts_parts := by
    rw [starts_ofIds hids (Nat.le_refl parts), below_of_forall_lt hids]
  starts_ascend := by
    rw [starts_toList_ofIds hids, List.pairwise_map]
    exact List.pairwise_lt_range.imp fun hlt => below_mono ids (Nat.le_of_lt hlt)
  size_rows := (placed_ofIds hids).size_rows
  mem_rowsOf p hp i := by
    rw [rowsOf_ofIds hids hp, mem_indicesOf_zipIdx]
  rowsOf_ascend p hp := by
    rw [rowsOf_ofIds hids hp]
    exact pairwise_indicesOf_zipIdx p ids
  rowsOf_past p := rowsOf_of_parts_le hids
  perm := perm_rowsOf_ofIds hids

/-- Fewer rows than a word counts are grouped by their ids without a counter or a place out of
range. The ids of routed records are always those of partitions, also when they are kept in
words. -/
theorem ofIds_exact :
    (∀ (ids : List Nat) (parts : Nat), ids.length < UInt32.size → (∀ p ∈ ids, p < parts) →
      ofIds? ids parts = some (ofIds ids parts) ∧ Groups ids parts (ofIds ids parts)) ∧
    ∀ (r : Router) (records : List Row) (n : Nat), n < UInt32.size →
      ∃ ids, r.group records n = ofIds ids (max n 1) ∧
        ids = records.map (fun record => (UInt32.ofNat (r.routeRecord record n)).toNat) ∧
        ∀ p ∈ ids, p < max n 1 := by
  refine ⟨fun ids parts hlength hids => ⟨ofIds?_eq hlength hids, groups_ofIds hids⟩,
    fun r records n hn => ⟨_, rfl, ?_, r.ids_lt records n⟩⟩
  refine List.map_congr_left fun record hrecord => ?_
  have hlt := r.ids_lt records n _ (List.mem_map_of_mem hrecord)
  have hsize : (1 : Nat) < UInt32.size := by decide
  exact (UInt32.toNat_ofNat_of_lt' (by omega)).symm

/-- Partitions of no row among others, and rows that are routed to no partitions at all. -/
theorem ofIds_exact_sparse :
    let ids := [3, 1, 1, 1, 2, 2, 0]
    let r : Router := ⟨Router.largestFirst, #[[.int 7]]⟩
    ofIds? ids 5 = some ⟨ids, #[0, 1, 4, 6, 7, 7], #[6, 1, 2, 3, 4, 5, 0]⟩ ∧
      (ofIds ids 5).rowsOf 1 = [1, 2, 3] ∧ (∀ i, i ∈ (ofIds ids 5).rowsOf 1 ↔ ids[i]? = some 1) ∧
      r.group Router.unsortedRows 0 = ofIds (List.replicate 6 0) 1 := by
  intro ids r
  obtain ⟨hgroups, hrouted⟩ := ofIds_exact
  obtain ⟨hrun, hexact⟩ := hgroups ids 5 (by decide) (by decide)
  have hvalue : ofIds ids 5 = ⟨ids, #[0, 1, 4, 6, 7, 7], #[6, 1, 2, 3, 4, 5, 0]⟩ := by decide
  obtain ⟨routed, hgroup, hwords, hbelow⟩ := hrouted r Router.unsortedRows 0 (by decide)
  have hlength : routed.length = 6 := by
    rw [hwords, List.length_map]
    rfl
  have hzero : routed = List.replicate 6 0 :=
    List.eq_replicate_iff.mpr ⟨hlength, fun p hp => Nat.lt_one_iff.mp (hbelow p hp)⟩
  rw [hzero] at hgroup
  exact ⟨hvalue ▸ hrun, by decide, hexact.mem_rowsOf 1 (by decide), hgroup⟩

end Grouping

end RangeSort
