import RangeSort.Partition.Reservoir
import RangeSort.Power

/-! Moves drawn at random. The lengths of skips follow the distribution that makes
every sample equally likely; slots are uniform. -/

namespace RangeSort

/-- A source of 64-bit draws. -/
structure Generator (γ : Type) where
  next : γ → UInt64 × γ

namespace Generator

variable {γ : Type}

/-- A number in `[0, 1)` with 53 random bits. -/
def unit (g : Generator γ) (state : γ) : Float × γ :=
  let (draw, rest) := g.next state
  ((draw >>> 11).toFloat / 9007199254740992.0, rest)

/-- The low half of a draw. -/
def half (g : Generator γ) (state : γ) : Fin (2 ^ 32) × γ :=
  let (draw, rest) := g.next state
  (Fin.ofNat _ draw.toNat, rest)

/-- A number below `size`: the high word of `size` times a half draw. Where the low word
leaves a carry open, a second half draw decides it. -/
def below (g : Generator γ) (size : Nat) (hsize : 0 < size) (state : γ) : Fin size × γ :=
  let first := g.half state
  let product := first.1.val * size
  have hproduct : product + size ≤ 2 ^ 32 * size := by
    rw [← Nat.succ_mul]
    exact Nat.mul_le_mul_right size first.1.isLt
  if 2 ^ 32 - size < product % 2 ^ 32 then
    let second := g.half first.2
    have hcarry : second.1.val * size / 2 ^ 32 < size :=
      Nat.div_lt_of_lt_mul (Nat.mul_lt_mul_of_pos_right second.1.isLt hsize)
    (⟨(product + second.1.val * size / 2 ^ 32) / 2 ^ 32,
      Nat.div_lt_of_lt_mul (by omega)⟩, second.2)
  else (⟨product / 2 ^ 32, Nat.div_lt_of_lt_mul (by omega)⟩, first.2)

end Generator

/-- The largest of the uniform numbers that stand for the rows in the reservoir, and
the generator. -/
structure MoveState (γ : Type) where
  threshold : Float
  generator : γ

namespace Reservoir

variable {γ : Type}

/-- The factor by which a replacement shrinks the threshold. -/
def shrinkage (g : Generator γ) (size : Nat) (state : γ) : Float × γ :=
  let (u, rest) := g.unit state
  ((u.log / size.toFloat).exp, rest)

def start (g : Generator γ) (size : Nat) (state : γ) : MoveState γ :=
  let (factor, rest) := shrinkage g size state
  ⟨factor, rest⟩

def randomMoves (g : Generator γ) : MoveSource (MoveState γ) where
  skip s :=
    let (u, rest) := g.unit s.generator
    ((u.log / (1.0 - s.threshold).log).floor.toUInt64.toNat, { s with generator := rest })
  slot size h s :=
    let (i, rest) := g.below size h s.generator
    let (factor, last) := shrinkage g size rest
    (i, ⟨s.threshold * factor, last⟩)

/-- A sample drawn with `g`. No draw is made when every record or none is taken. -/
def draw {α : Type} (g : Generator γ) (records : List α) (size : Nat) (state : γ) :
    List α × γ :=
  if records.length ≤ size then (records, state)
  else if size = 0 then ([], state)
  else
    let (rows, after) := sample (randomMoves g) records size (start g size state)
    (rows, after.generator)

end Reservoir

end RangeSort
