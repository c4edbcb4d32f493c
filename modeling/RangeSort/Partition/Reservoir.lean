/-! Reservoir sampling that skips. The reservoir starts with the first rows; the source
of moves says how many rows to pass over before the next replacement and which slot it
hits, so the work grows with the number of replacements and not with the rows. -/

namespace RangeSort

/-- Where the moves come from. Nothing is asked of the numbers themselves. -/
structure MoveSource (σ : Type) where
  skip : σ → Nat × σ
  slot : (size : Nat) → 0 < size → σ → Fin size × σ

namespace Reservoir

variable {σ α : Type}

/-- The row reached from `row` by passing over `skip` rows, if it is one of the rows. Rows are
counted in words of 64 bits: a step stops at the greatest word, and past it there are no rows. -/
def nextRow (rows row skip : Nat) : Option Nat :=
  let next := row + min (skip + 1) (UInt64.size - 1)
  if next < UInt64.size ∧ next < rows then some next else none

theorem nextRow_eq_some {rows row skip next : Nat} (h : nextRow rows row skip = some next) :
    row < next ∧ next < rows := by
  have hword : 1 < UInt64.size := by decide
  simp only [nextRow] at h
  split at h
  · cases h
    omega
  · cases h

/-- Replacements after `row`, the last row taken so far. -/
def replace (source : MoveSource σ) (rows : Nat) {size : Nat} (hsize : 0 < size)
    (row : Nat) (slots : Vector Nat size) (state : σ) : Vector Nat size × σ :=
  let move := source.skip state
  match hnext : nextRow rows row move.1 with
  | none => (slots, move.2)
  | some next =>
    have := nextRow_eq_some hnext
    let hit := source.slot size hsize move.2
    replace source rows hsize next (slots.set hit.1.val next hit.1.isLt) hit.2
termination_by rows - row

section

variable {source : MoveSource σ} {rows size row : Nat} {hsize : 0 < size}
  {slots : Vector Nat size} {state : σ}

theorem replace_of_none (h : nextRow rows row (source.skip state).1 = none) :
    replace source rows hsize row slots state = (slots, (source.skip state).2) := by
  rw [replace]
  split
  · rfl
  · rename_i hnext
    cases h.symm.trans hnext

theorem replace_of_some {next : Nat} (h : nextRow rows row (source.skip state).1 = some next) :
    replace source rows hsize row slots state =
      let hit := source.slot size hsize (source.skip state).2
      replace source rows hsize next (slots.set hit.1.val next hit.1.isLt) hit.2 := by
  rw [replace]
  split
  · rename_i hnext
    cases h.symm.trans hnext
  · rename_i hnext
    cases h.symm.trans hnext
    rfl

end

/-- The positions of a sample in ascending order. -/
def positions (source : MoveSource σ) (rows size : Nat) (state : σ) : List Nat × σ :=
  if rows ≤ size then (List.range rows, state)
  else if h : 0 < size then
    let filled := replace source rows h (size - 1) (Vector.range size) state
    (filled.1.toList.mergeSort fun a b => a ≤ b, filled.2)
  else ([], state)

def sample (source : MoveSource σ) (records : List α) (size : Nat) (state : σ) : List α × σ :=
  let chosen := positions source records.length size state
  let table := records.toArray
  (chosen.1.filterMap fun i => table[i]?, chosen.2)

end Reservoir

end RangeSort
