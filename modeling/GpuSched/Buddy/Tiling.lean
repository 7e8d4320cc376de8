import GpuSched.Alignment

/-!
# Tilings by aligned blocks

A range of units is covered from left to right with the largest aligned blocks that fit, none of
an order above a cap. A new space starts with such a tiling, and a range that a caller places is
put together from the blocks of one.
-/
namespace GpuSched.Buddy

/-- A place for a block. -/
structure Tile where
  position : Nat
  order : Nat
  deriving DecidableEq, Repr

/-- The first unit after a tile. -/
def Tile.stop (tile : Tile) : Nat := tile.position + twoPow tile.order

/-- The order of the largest block at a position that is aligned and ends by `stop`. -/
def tileOrder (cap position stop : Nat) : Nat :=
  Alignment.alignedOrder (min cap (stop - position).log2) position

/-- The greedy tiling of the units from `position` up to `stop`. -/
def tiling (cap position stop : Nat) : List Tile :=
  if position < stop then
    let order := tileOrder cap position stop
    ⟨position, order⟩ :: tiling cap (position + twoPow order) stop
  else
    []
termination_by stop - position
decreasing_by
  have := twoPow_pos (tileOrder cap position stop)
  omega

end GpuSched.Buddy
