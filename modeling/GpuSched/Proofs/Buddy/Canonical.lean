import GpuSched.Proofs.Buddy.Nodes

/-!
# The blocks that a set of handed-out blocks leaves

A forest is tidy when nothing in it is loose, no two halves of one block are both free, and its
roots are the tiles of the space. What is handed out decides the rest of a tidy forest: a cell is
split just when something smaller is handed out in it, and every other part of a split block or of
the space is free. So two tidy forests with the same blocks handed out have the same free blocks.
-/
namespace GpuSched.Buddy

/-- A forest with nothing loose and all free halves joined, over the tiles of a space. -/
structure Tidy (units maxOrder : Nat) (blocks : BlockId → Option Block) : Prop where
  forest : Forest units maxOrder blocks
  merged : Merged blocks
  not_loose : ∀ {id block}, blocks id = some block → block.state ≠ .loose
  roots : ∀ tile, HoldsAt blocks Block.isRoot tile ↔ tile ∈ tiling maxOrder 0 units

/-- A cell of a space is a place where a block can be. -/
structure Tile.IsCell (tile : Tile) (units maxOrder : Nat) : Prop where
  aligned : tile.Aligned
  capped : tile.order ≤ maxOrder
  inside : tile.stop ≤ units

/-- Two tiles have a unit in common. -/
def Tile.Meets (one other : Tile) : Prop :=
  one.position < other.stop ∧ other.position < one.stop

/-- A tile meets what it lies in. -/
theorem Tile.Within.meets {inner outer : Tile} (within : inner.Within outer) :
    inner.Meets outer :=
  ⟨Nat.lt_of_lt_of_le inner.position_lt_stop within.2,
    Nat.lt_of_le_of_lt within.1 inner.position_lt_stop⟩

namespace Tidy

variable {units maxOrder : Nat} {blocks : BlockId → Option Block} {id : BlockId}
  {block : Block} {cell : Tile}

/-- The place of a block is a cell of the space. -/
theorem isCell (tidy : Tidy units maxOrder blocks) (found : blocks id = some block) :
    block.tile.IsCell units maxOrder :=
  have fits := tidy.forest.fits found
  ⟨fits.aligned, fits.capped, fits.inside⟩

/-- A root that meets a cell is at least as large. -/
theorem le_order_of_root (tidy : Tidy units maxOrder blocks) (is_cell : cell.IsCell units maxOrder)
    (found : blocks id = some block) (root : block.isRoot = true)
    (meets : cell.Meets block.tile) : cell.order ≤ block.order := by
  have mem : block.tile ∈ tiling maxOrder 0 units :=
    (tidy.roots block.tile).mp ⟨id, block, found, root, rfl⟩
  exact order_le_of_mem_tiling mem is_cell.aligned is_cell.capped (Nat.zero_le _) is_cell.inside
    meets.1 meets.2

/-- A cell that a smaller block meets is the place of a split block. -/
theorem split_of_smaller (tidy : Tidy units maxOrder blocks) (is_cell : cell.IsCell units maxOrder)
    (found : blocks id = some block) (meets : cell.Meets block.tile)
    (smaller : block.order < cell.order) :
    ∃ node whole, blocks node = some whole ∧ whole.isLeaf = false ∧ whole.tile = cell := by
  have within : block.tile.Within cell := (tidy.forest.aligned found).within is_cell.aligned
    (Nat.le_of_lt smaller) meets.1 meets.2
  rcases tidy.forest.exists_above found (Nat.le_of_lt smaller) with
    ⟨top, held, at_top, root, lower, inside⟩ | ⟨node, whole, at_node, order, inside, no_leaf⟩
  · have meets_top : cell.Meets held.tile :=
      ⟨Nat.lt_of_lt_of_le meets.1 inside.2, Nat.lt_of_le_of_lt inside.1 meets.2⟩
    exact absurd (tidy.le_order_of_root is_cell at_top root meets_top) (Nat.not_le.mpr lower)
  · have meets_whole : cell.Meets whole.tile :=
      ⟨Nat.lt_of_lt_of_le meets.1 inside.2, Nat.lt_of_le_of_lt inside.1 meets.2⟩
    have place : whole.tile = cell := (tidy.forest.aligned at_node).eq is_cell.aligned order
      meets_whole.1 meets_whole.2
    exact ⟨node, whole, at_node, no_leaf smaller, place⟩

/-- A split block has a smaller block in it that is handed out. -/
theorem exists_allocated (tidy : Tidy units maxOrder blocks) (found : blocks id = some block)
    (no_leaf : block.isLeaf = false) :
    ∃ inner, HoldsAt blocks Block.isAllocated inner ∧ inner.Within block.tile ∧
      inner.order < block.order := by
  obtain ⟨leaf, held, under, is_leaf, unlisted, within, smaller⟩ :=
    tidy.forest.exists_unlisted tidy.merged found no_leaf
  have allocated : held.isAllocated = true := by
    by_contra other
    rw [Bool.not_eq_true] at other
    have listed := Block.isListed_of_leaf is_leaf (tidy.not_loose under) other
    rw [unlisted] at listed
    cases listed
  exact ⟨held.tile, ⟨leaf, held, under, allocated, rfl⟩, within, smaller⟩

/-- The split cells are those that something smaller is handed out in. -/
theorem splitAt_iff (tidy : Tidy units maxOrder blocks) :
    HoldsAt blocks Block.isSplit cell ↔ cell.IsCell units maxOrder ∧
      ∃ inner, HoldsAt blocks Block.isAllocated inner ∧ inner.Within cell ∧
        inner.order < cell.order := by
  constructor
  · rintro ⟨id, block, found, split, rfl⟩
    have no_leaf : block.isLeaf = false := by simpa [Block.isSplit] using split
    exact ⟨tidy.isCell found, tidy.exists_allocated found no_leaf⟩
  · rintro ⟨is_cell, inner, ⟨id, block, found, -, rfl⟩, within, smaller⟩
    have meets : cell.Meets block.tile := ⟨within.meets.2, within.meets.1⟩
    obtain ⟨node, whole, at_node, no_leaf, place⟩ :=
      tidy.split_of_smaller is_cell found meets smaller
    have split : whole.isSplit = true := by unfold Block.isSplit; rw [no_leaf]; rfl
    exact ⟨node, whole, at_node, split, place⟩

/-- The places of blocks are the tiles of the space and the halves of split blocks. -/
theorem placeAt_iff (tidy : Tidy units maxOrder blocks) :
    HoldsAt blocks (fun _ => true) cell ↔ cell ∈ tiling maxOrder 0 units ∨
      ∃ whole, HoldsAt blocks Block.isSplit whole ∧ whole.order = cell.order + 1 ∧
        (cell.position = whole.position ∨
          cell.position = whole.position + twoPow cell.order) := by
  constructor
  · rintro ⟨id, block, found, -, rfl⟩
    cases related : block.family with
    | none =>
      have root : block.isRoot = true := by unfold Block.isRoot; rw [related]; rfl
      exact .inl ((tidy.roots block.tile).mp ⟨id, block, found, root, rfl⟩)
    | some family =>
      obtain ⟨parent, buddy, order, above, no_leaf, -, halves⟩ :=
        tidy.forest.exists_family found related
      have split : parent.isSplit = true := by unfold Block.isSplit; rw [no_leaf]; rfl
      refine .inr ⟨parent.tile, ⟨family.parent, parent, above, split, rfl⟩, ?_⟩
      rcases halves with halves | halves
      · exact ⟨by simp [halves.above, halves.left_order], .inl halves.left_position⟩
      · refine ⟨by simp [halves.above, halves.right_order], .inr ?_⟩
        simp [halves.right_position, halves.right_order]
  · rintro (mem | ⟨whole, ⟨id, block, found, split, rfl⟩, order, position⟩)
    · obtain ⟨id, block, found, -, place⟩ := (tidy.roots cell).mpr mem
      exact ⟨id, block, found, rfl, place⟩
    · have no_leaf : block.isLeaf = false := by simpa [Block.isSplit] using split
      obtain ⟨left, right, leftHalf, rightHalf, lower, -, at_left, at_right, halves⟩ :=
        tidy.forest.exists_halves found no_leaf
      have above := halves.above
      have same : lower = cell.order := by
        rw [Block.tile_order] at order
        omega
      rcases position with position | position
      · refine ⟨left, leftHalf, at_left, rfl, ?_⟩
        unfold Block.tile
        rw [halves.left_position, halves.left_order, same, ← Block.tile_position, ← position]
      · refine ⟨right, rightHalf, at_right, rfl, ?_⟩
        unfold Block.tile
        rw [halves.right_position, halves.right_order, same, ← Block.tile_position, ← position]

/-- The free blocks are those that are neither split nor handed out. -/
theorem listedAt_iff (tidy : Tidy units maxOrder blocks) :
    HoldsAt blocks Block.isListed cell ↔ HoldsAt blocks (fun _ => true) cell ∧
      ¬ HoldsAt blocks Block.isSplit cell ∧ ¬ HoldsAt blocks Block.isAllocated cell := by
  constructor
  · rintro ⟨id, block, found, listed, rfl⟩
    have leaf := Block.isLeaf_of_isListed listed
    refine ⟨⟨id, block, found, rfl, rfl⟩, ?_, ?_⟩
    · rintro ⟨other, held, under, split, place⟩
      obtain rfl := tidy.forest.eq_of_tile under found place
      rw [under, Option.some.injEq] at found
      subst found
      rw [Block.isSplit, leaf] at split
      cases split
    · rintro ⟨other, held, under, allocated, place⟩
      obtain rfl := tidy.forest.eq_of_tile under found place
      rw [under, Option.some.injEq] at found
      subst found
      have state : held.state = .allocated := of_decide_eq_true allocated
      unfold Block.isListed at listed
      rw [state] at listed
      cases listed
  · rintro ⟨⟨id, block, found, -, place⟩, no_split, not_allocated⟩
    have leaf : block.isLeaf = true := by
      by_contra split
      exact no_split ⟨id, block, found, by simpa [Block.isSplit] using split, place⟩
    have unused : block.isAllocated = false := by
      by_contra allocated
      exact not_allocated ⟨id, block, found, by simpa using allocated, place⟩
    exact ⟨id, block, found, Block.isListed_of_leaf leaf (tidy.not_loose found) unused, place⟩

/-- Two tidy forests with the same places handed out have the same places split. -/
theorem splitAt_congr {blocks' : BlockId → Option Block} (one : Tidy units maxOrder blocks)
    (other : Tidy units maxOrder blocks')
    (same : ∀ cell, HoldsAt blocks Block.isAllocated cell ↔ HoldsAt blocks' Block.isAllocated cell)
    (cell : Tile) : HoldsAt blocks Block.isSplit cell ↔ HoldsAt blocks' Block.isSplit cell := by
  rw [one.splitAt_iff, other.splitAt_iff]
  simp only [same]

/-- Two tidy forests with the same places handed out have the same places free. -/
theorem listedAt_congr {blocks' : BlockId → Option Block} (one : Tidy units maxOrder blocks)
    (other : Tidy units maxOrder blocks')
    (same : ∀ cell, HoldsAt blocks Block.isAllocated cell ↔ HoldsAt blocks' Block.isAllocated cell)
    (cell : Tile) : HoldsAt blocks Block.isListed cell ↔ HoldsAt blocks' Block.isListed cell := by
  rw [one.listedAt_iff, other.listedAt_iff, one.placeAt_iff, other.placeAt_iff]
  simp only [same, one.splitAt_congr other same]

/-- When nothing is handed out, the free places are the tiles of the space. -/
theorem listedAt_of_unused (tidy : Tidy units maxOrder blocks)
    (unused : ∀ cell, ¬ HoldsAt blocks Block.isAllocated cell) (cell : Tile) :
    HoldsAt blocks Block.isListed cell ↔ cell ∈ tiling maxOrder 0 units := by
  have no_split : ∀ cell, ¬ HoldsAt blocks Block.isSplit cell := by
    intro cell split
    obtain ⟨-, inner, allocated, -⟩ := tidy.splitAt_iff.mp split
    exact unused inner allocated
  rw [tidy.listedAt_iff, tidy.placeAt_iff]
  constructor
  · rintro ⟨mem | ⟨whole, split, -⟩, -⟩
    · exact mem
    · exact absurd split (no_split whole)
  · exact fun mem => ⟨.inl mem, no_split cell, unused cell⟩

/-- A cell that meets nothing handed out lies in one free block. -/
theorem exists_free_around (tidy : Tidy units maxOrder blocks)
    (is_cell : cell.IsCell units maxOrder)
    (free : ∀ inner, HoldsAt blocks Block.isAllocated inner → ¬ cell.Meets inner) :
    ∃ id block, blocks id = some block ∧ block.isListed = true ∧ cell.Within block.tile := by
  have below : cell.position < units :=
    Nat.lt_of_lt_of_le cell.position_lt_stop is_cell.inside
  obtain ⟨id, ⟨block, found, leaf, covers⟩, -⟩ := tidy.forest.tiled cell.position below
  have meets : cell.Meets block.tile :=
    ⟨covers.2, Nat.lt_of_le_of_lt covers.1 cell.position_lt_stop⟩
  have larger : cell.order ≤ block.order := by
    by_contra smaller
    obtain ⟨node, whole, at_node, no_leaf, rfl⟩ :=
      tidy.split_of_smaller is_cell found meets (Nat.lt_of_not_le smaller)
    obtain ⟨inner, allocated, within, -⟩ := tidy.exists_allocated at_node no_leaf
    exact free inner allocated ⟨within.meets.2, within.meets.1⟩
  have unused : block.isAllocated = false := by
    by_contra allocated
    exact free block.tile ⟨id, block, found, by simpa using allocated, rfl⟩ meets
  have listed := Block.isListed_of_leaf leaf (tidy.not_loose found) unused
  have within : cell.Within block.tile :=
    is_cell.aligned.within (tidy.forest.aligned found) larger meets.2 meets.1
  exact ⟨id, block, found, listed, within⟩

end Tidy

end GpuSched.Buddy
