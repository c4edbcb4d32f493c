import Mathlib.Data.List.Nodup
import RangeSort.Partition.RandomMoves
import RangeSort.Proofs.Job

/-! A sample is a subsequence of the records, of the size that was asked for, whatever the moves
are. A row that is put into the reservoir comes after all that are in it, so none is there
twice, and replacements end because rows only go up. -/

namespace RangeSort.Reservoir

variable {σ α : Type} {rows size : Nat}

/-- For rows that can be counted in words, nothing is lost where a step or a sum is cut. -/
theorem nextRow_eq (hrows : rows < UInt64.size) (row skip : Nat) :
    nextRow rows row skip = if row + skip + 1 < rows then some (row + skip + 1) else none := by
  by_cases h : row + skip + 1 < rows
  · have hstep : row + min (skip + 1) (UInt64.size - 1) = row + skip + 1 := by omega
    simp only [nextRow, hstep]
    rw [if_pos ⟨Nat.lt_trans h hrows, h⟩, if_pos h]
  · simp only [nextRow]
    rw [if_neg (by omega), if_neg h]

/-- The rows in a reservoir once `row` was reached. -/
structure Filled (slots : Vector Nat size) (row : Nat) : Prop where
  nodup : slots.toList.Nodup
  le_row : ∀ p ∈ slots.toList, p ≤ row

theorem filled_range : Filled (Vector.range size) (size - 1) where
  nodup := by
    rw [Vector.toList_range]
    exact List.nodup_range
  le_row p hp := by
    rw [Vector.toList_range, List.mem_range] at hp
    omega

theorem Filled.set {slots : Vector Nat size} {row next : Nat} (h : Filled slots row)
    (hnext : row < next) (hit : Fin size) :
    Filled (slots.set hit.val next hit.isLt) next where
  nodup := by
    have hfresh : next ∉ slots.toList := fun hmem => by
      have := h.le_row next hmem
      omega
    rw [Vector.toList_set]
    exact h.nodup.set hfresh
  le_row p hp := by
    rw [Vector.toList_set] at hp
    rcases List.mem_or_eq_of_mem_set hp with hp | rfl
    · have := h.le_row p hp
      omega
    · exact Nat.le_refl p

theorem Filled.replace (source : MoveSource σ) (hsize : 0 < size) {row : Nat}
    {slots : Vector Nat size} (h : Filled slots row) (hrow : row < rows) (state : σ) :
    ∃ last < rows, Filled (replace source rows hsize row slots state).1 last := by
  fun_induction Reservoir.replace source rows hsize row slots state with
  | case1 row slots state move hnext => exact ⟨row, hrow, h⟩
  | case2 row slots state move next hnext _ hit ih =>
    obtain ⟨hlt, hrows⟩ := nextRow_eq_some hnext
    exact ih (h.set hlt hit.1) hrows

theorem mem_toList_set (slots : Vector Nat size) (next : Nat) (hit : Fin size) :
    next ∈ (slots.set hit.val next hit.isLt).toList := by
  rw [Vector.toList_set]
  exact List.mem_set (by rw [Vector.length_toList]; exact hit.isLt) next

/-- The row reached last is in the reservoir when replacements end. -/
theorem exists_le_replace (source : MoveSource σ) (hsize : 0 < size) {row : Nat}
    {slots : Vector Nat size} (h : row ∈ slots.toList) (state : σ) :
    ∃ last ∈ (replace source rows hsize row slots state).1.toList, row ≤ last := by
  fun_induction Reservoir.replace source rows hsize row slots state with
  | case1 row slots state move hnext => exact ⟨row, h, Nat.le_refl row⟩
  | case2 row slots state move next hnext _ hit ih =>
    obtain ⟨last, hlast, hle⟩ := ih (mem_toList_set slots next hit.1)
    exact ⟨last, hlast, Nat.le_trans (Nat.le_of_lt (nextRow_eq_some hnext).1) hle⟩

/-- The moves of `source`, with a count of the replacements. -/
def counted (source : MoveSource σ) : MoveSource (σ × Nat) where
  skip s :=
    let move := source.skip s.1
    (move.1, move.2, s.2)
  slot size hsize s :=
    let hit := source.slot size hsize s.1
    (hit.1, hit.2, s.2 + 1)

/-- Every replacement is for a row of its own after `row`. -/
theorem replace_counted (source : MoveSource σ) (hsize : 0 < size) {row : Nat} (hrow : row < rows)
    (slots : Vector Nat size) (state : σ) (count : Nat) :
    ∃ k, row + k < rows ∧
      replace (counted source) rows hsize row slots (state, count) =
        ((replace source rows hsize row slots state).1,
          (replace source rows hsize row slots state).2, count + k) := by
  fun_induction replace source rows hsize row slots state generalizing count with
  | case1 row slots state move hnext =>
    exact ⟨0, hrow, replace_of_none hnext⟩
  | case2 row slots state move next hnext _ hit ih =>
    obtain ⟨hlt, hrows⟩ := nextRow_eq_some hnext
    obtain ⟨k, hk, hrun⟩ := ih hrows (count + 1)
    have hsame : nextRow rows row ((counted source).skip (state, count)).1 = some next := hnext
    rw [Nat.add_right_comm] at hrun
    exact ⟨k + 1, by omega, (replace_of_some hsame).trans hrun⟩

theorem pairwise_lt_mergeSort {l : List Nat} (h : l.Nodup) :
    (l.mergeSort fun a b => a ≤ b).Pairwise (· < ·) := by
  have hle : (l.mergeSort fun a b => a ≤ b).Pairwise fun a b => decide (a ≤ b) = true :=
    List.pairwise_mergeSort (fun a b c => by simpa using Nat.le_trans)
      (fun a b => by simpa using Nat.le_total a b) l
  have hne : (l.mergeSort fun a b => a ≤ b).Nodup := (List.mergeSort_perm l _).nodup_iff.mpr h
  refine (hle.and hne).imp fun {a b} hab => ?_
  exact Nat.lt_of_le_of_ne (of_decide_eq_true hab.1) hab.2

/-- Positions are those of some rows, each once and in their order. -/
theorem positions_spec (source : MoveSource σ) (rows size : Nat) (state : σ) :
    (positions source rows size state).1.length = min size rows ∧
      (positions source rows size state).1.Pairwise (· < ·) ∧
      ∀ p ∈ (positions source rows size state).1, p < rows := by
  unfold positions
  split
  · rename_i hrows
    exact ⟨by rw [List.length_range, Nat.min_eq_right hrows], List.pairwise_lt_range,
      fun p => List.mem_range.mp⟩
  · split
    · rename_i hrows hsize
      obtain ⟨last, hlast, hfilled⟩ :=
        Filled.replace source hsize filled_range (show size - 1 < rows by omega) state
      refine ⟨?_, pairwise_lt_mergeSort hfilled.nodup, fun p hp => ?_⟩
      · rw [List.length_mergeSort, Vector.length_toList]
        omega
      · have := hfilled.le_row p (List.mem_mergeSort.mp hp)
        omega
    · exact ⟨by simp; omega, .nil, fun p hp => by cases hp⟩

/-- A first move that reaches a row brings that row or a later one into the sample. -/
theorem exists_le_positions (source : MoveSource σ) (hsize : 0 < size) {state : σ} {next : Nat}
    (h : nextRow rows (size - 1) (source.skip state).1 = some next) :
    ∃ p ∈ (positions source rows size state).1, next ≤ p := by
  obtain ⟨hlt, hrows⟩ := nextRow_eq_some h
  unfold positions
  rw [if_neg (by omega), dif_pos hsize, replace_of_some h]
  obtain ⟨last, hlast, hle⟩ := exists_le_replace source hsize (mem_toList_set _ next _) _
  exact ⟨last, List.mem_mergeSort.mpr hlast, hle⟩

theorem positions_counted (source : MoveSource σ) (rows size : Nat) (state : σ) :
    ∃ k ≤ rows - size, positions (counted source) rows size (state, 0) =
      ((positions source rows size state).1, (positions source rows size state).2, k) := by
  unfold positions
  split
  · exact ⟨0, Nat.zero_le _, rfl⟩
  · split
    · rename_i hrows hsize
      obtain ⟨k, hk, hrun⟩ := replace_counted source hsize (show size - 1 < rows by omega)
        (Vector.range size) state 0
      refine ⟨k, by omega, ?_⟩
      rw [Nat.zero_add] at hrun
      simp only [hrun]
    · exact ⟨0, Nat.zero_le _, rfl⟩

/-- Rows looked up at ascending positions. -/
theorem rows_at_ascending {l : List α} {chosen : List Nat} (hs : chosen.Pairwise (· < ·))
    (hlt : ∀ p ∈ chosen, p < l.length) :
    (chosen.filterMap (l[·]?)).map some = chosen.map (l[·]?) ∧
      (chosen.filterMap (l[·]?)).Sublist l := by
  let is : List (Fin l.length) := chosen.pmap Fin.mk hlt
  have hchosen : is.map Fin.val = chosen := by simp [is, List.map_pmap]
  have hrows : chosen.filterMap (l[·]?) = is.map (l[·]) := by
    rw [← hchosen, List.filterMap_map, ← List.filterMap_eq_map]
    exact List.filterMap_congr fun i _ => List.getElem?_eq_getElem i.isLt
  have his : is.Pairwise (· < ·) := by
    rw [← hchosen, List.pairwise_map] at hs
    exact hs
  rw [hrows]
  refine ⟨?_, List.map_getElem_sublist his⟩
  rw [← hchosen, List.map_map, List.map_map]
  exact List.map_congr_left fun i _ => (List.getElem?_eq_getElem i.isLt).symm

theorem sample_of_le (source : MoveSource σ) {records : List α} (h : records.length ≤ size)
    (state : σ) : (sample source records size state).1 = records := by
  obtain ⟨hrows, -⟩ := rows_at_ascending (l := records) List.pairwise_lt_range
    fun p => List.mem_range.mp
  have hall : (sample source records size state).1 =
      (List.range records.length).filterMap (records[·]?) := by
    simp [sample, positions, h]
  rw [hall, ← List.map_inj_right fun _ _ => Option.some.inj, hrows]
  exact List.ext_getElem (by simp) (by simp)

/-- Samples that are drawn are samples of the moves that the generator makes. -/
theorem draw_eq_sample {γ : Type} (g : Generator γ) (records : List α) (size : Nat) (state : γ) :
    (draw g records size state).1 =
      (sample (randomMoves g) records size (start g size state)).1 := by
  unfold draw
  split
  · rename_i h
    rw [sample_of_le _ h]
  · split
    · rename_i hrecords hsize
      obtain ⟨hnone, -⟩ :=
        positions_spec (randomMoves g) records.length size (start g size state)
      rw [hsize, Nat.zero_min, List.length_eq_zero_iff] at hnone
      rw [sample, hsize, hnone]
      rfl
    · rfl

/-- Sampling changes no boundary when all records are in the sample. -/
theorem result_sampleBoundaries (source : MoveSource σ) {records : List Row}
    (h : records.length ≤ size) (state : σ) (key : SortKey) (parts : Nat) :
    (SortKey.sampleBoundaries source state key records size parts).result =
      (key.determineBoundaries records parts).result := by
  rw [SortKey.sampleBoundaries, sample_of_le source h]
  rfl

/-- The sample of any moves, with no more replacements than there are rows past the first ones.
It is all of the records when they fit. -/
theorem sample_sublist {σ : Type} (source : MoveSource σ) (records : List Row) (size : Nat)
    (state : σ) :
    let rows := records.length
    let chosen := (positions source rows size state).1
    let sampled := (sample source records size state).1
    (∃ k ≤ rows - size, positions (counted source) rows size (state, 0) =
        (chosen, (positions source rows size state).2, k)) ∧
      (rows < UInt64.size → ∀ row skip, nextRow rows row skip =
        if row + skip + 1 < rows then some (row + skip + 1) else none) ∧
      chosen.length = min size rows ∧ chosen.Pairwise (· < ·) ∧ (∀ p ∈ chosen, p < rows) ∧
      sampled.map some = chosen.map (records[·]?) ∧ sampled.Sublist records ∧
      (rows ≤ size → sampled = records ∧ ∀ key parts,
        (SortKey.sampleBoundaries source state key records size parts).result =
          (key.determineBoundaries records parts).result) ∧
      ∀ (γ : Type) (g : Generator γ) (start : γ),
        (draw g records size start).1 =
          (sample (randomMoves g) records size (Reservoir.start g size start)).1 := by
  intro rows chosen sampled
  obtain ⟨hlength, hascending, hlt⟩ := positions_spec source rows size state
  have hrows : sampled = chosen.filterMap (records[·]?) := by simp [sampled, chosen, sample, rows]
  obtain ⟨hfound, hsublist⟩ := rows_at_ascending hascending hlt
  refine ⟨positions_counted source rows size state, nextRow_eq, hlength, hascending, hlt,
    hrows ▸ hfound, hrows ▸ hsublist, fun hle => ?_, fun γ g => draw_eq_sample g records size⟩
  exact ⟨sample_of_le source hle state, result_sampleBoundaries source hle state⟩

/-- Skips of zero and of the greatest word, into the first slot. -/
theorem sample_sublist_extremes :
    let source : MoveSource Bool :=
      ⟨fun b => (if b then 0 else UInt64.size - 1, !b), fun _ h b => (⟨0, h⟩, b)⟩
    let records : List Row := [[.int 1], [.int 2], [.int 2], []]
    records.length < UInt64.size ∧ nextRow 4 2 (UInt64.size - 1) = none ∧
      (sample source records 2 true).1.Sublist records ∧
      (sample source records 2 true).1.length = 2 ∧
      records.length ≤ 5 ∧ (sample source records 5 true).1 = records := by
  intro source records
  have hwords : records.length < UInt64.size := by decide
  have hfits : records.length ≤ 5 := by decide
  obtain ⟨-, hnext, hlength, -, -, hfound, hsublist, -⟩ := sample_sublist source records 2 true
  obtain ⟨-, -, -, -, -, -, -, hall, -⟩ := sample_sublist source records 5 true
  have htwo : (sample source records 2 true).1.length = 2 := by
    have := congrArg List.length hfound
    rwa [List.length_map, List.length_map, hlength] at this
  exact ⟨hwords, hnext hwords 2 (UInt64.size - 1), hsublist, htwo, hfits, (hall hfits).1⟩

end RangeSort.Reservoir
