import GpuSched.Proofs.Buddy.Effects
import GpuSched.Proofs.Buddy.Forest
import GpuSched.Proofs.Buddy.Tiling

/-!
# Places in a forest

A block is found by its place: no two blocks of a forest have the same position and order. From a
block the forest goes up through split blocks to a block without a parent, and down to a leaf at
each of its units. Where no two halves of one block are both free, a split block has a leaf in it
that is not free, so free leaves that fill an aligned cell leave nothing split inside it.
-/
namespace GpuSched.Buddy

/-- The place of a block. -/
def Block.tile (block : Block) : Tile := ⟨block.position, block.order⟩

@[simp] theorem Block.tile_position (block : Block) : block.tile.position = block.position := rfl

@[simp] theorem Block.tile_order (block : Block) : block.tile.order = block.order := rfl

@[simp] theorem Block.outline_tile (block : Block) : block.outline.tile = block.tile := by
  unfold Block.tile
  rw [Block.outline_position, Block.outline_order]

namespace Tile

/-- A tile lies at a multiple of its length. -/
def Aligned (tile : Tile) : Prop := tile.position % twoPow tile.order = 0

/-- One tile lies in another. -/
def Within (inner outer : Tile) : Prop :=
  outer.position ≤ inner.position ∧ inner.stop ≤ outer.stop

/-- A tile has a first unit. -/
theorem position_lt_stop (tile : Tile) : tile.position < tile.stop :=
  Nat.lt_add_of_pos_right (twoPow_pos tile.order)

/-- Of two aligned tiles that meet, the smaller one lies in the larger one. -/
theorem Aligned.within {small large : Tile} (small_aligned : small.Aligned)
    (large_aligned : large.Aligned) (order : small.order ≤ large.order)
    (after : large.position < small.stop) (before : small.position < large.stop) :
    small.Within large := by
  obtain ⟨more, same⟩ := Nat.exists_eq_add_of_le order
  have length : twoPow large.order = twoPow small.order * twoPow more := by
    rw [same, twoPow_add]
  obtain ⟨low, at_small⟩ := Nat.dvd_of_mod_eq_zero small_aligned
  obtain ⟨high, at_large⟩ := Nat.dvd_trans ⟨_, length⟩ (Nat.dvd_of_mod_eq_zero large_aligned)
  unfold stop at after before
  unfold Within stop
  rw [at_small, at_large] at after
  rw [at_small, at_large, length, ← Nat.mul_add] at before
  rw [at_small, at_large, length]
  have lower : high < low + 1 :=
    Nat.lt_of_mul_lt_mul_left (a := twoPow small.order) (by rwa [Nat.mul_succ])
  have upper : low + 1 ≤ high + twoPow more := Nat.lt_of_mul_lt_mul_left before
  constructor
  · exact Nat.mul_le_mul_left _ (Nat.le_of_lt_succ lower)
  · rw [← Nat.mul_succ, ← Nat.mul_add]
    exact Nat.mul_le_mul_left _ upper

/-- Aligned tiles of one length that meet are the same. -/
theorem Aligned.eq {one other : Tile} (one_aligned : one.Aligned) (other_aligned : other.Aligned)
    (order : one.order = other.order) (after : other.position < one.stop)
    (before : one.position < other.stop) : one = other := by
  have forward := one_aligned.within other_aligned (Nat.le_of_eq order) after before
  have backward := other_aligned.within one_aligned (Nat.le_of_eq order.symm) before after
  have position := Nat.le_antisymm backward.1 forward.1
  obtain ⟨at_one, of_one⟩ := one
  obtain ⟨at_other, of_other⟩ := other
  dsimp only at position order
  rw [position, order]

end Tile

/-- A tile of the greedy tiling is at least as large as any aligned cell that it meets, if the cell
lies in the range and keeps the cap. -/
theorem order_le_of_mem_tiling {cap position stop : Nat} {tile cell : Tile}
    (mem : tile ∈ tiling cap position stop) (aligned : cell.Aligned) (capped : cell.order ≤ cap)
    (from_start : position ≤ cell.position) (to_stop : cell.stop ≤ stop)
    (after : cell.position < tile.stop) (before : tile.position < cell.stop) :
    cell.order ≤ tile.order := by
  fun_induction tiling cap position stop with
  | case1 position below order ih =>
    obtain ⟨-, multiple, -⟩ := tileOrder_fits cap below
    have first : Tile.Aligned ⟨position, order⟩ := multiple
    have covers : cell.position < position + twoPow order → cell.order ≤ order := by
      intro inside
      by_contra larger
      have part : Tile.Aligned ⟨cell.position, order⟩ := by
        have divides := twoPow_dvd_twoPow (Nat.le_of_lt (Nat.lt_of_not_le larger))
        exact Nat.mod_eq_zero_of_dvd (Nat.dvd_trans divides (Nat.dvd_of_mod_eq_zero aligned))
      have same : (⟨position, order⟩ : Tile) = ⟨cell.position, order⟩ :=
        first.eq part rfl inside (Nat.lt_of_le_of_lt from_start
          (Nat.lt_add_of_pos_right (twoPow_pos order)))
      have start : position = cell.position := congrArg Tile.position same
      have length : twoPow cell.order ≤ stop - position := by
        unfold Tile.stop at to_stop
        omega
      have allowed : cell.order ≤ min cap (stop - position).log2 :=
        Nat.le_min.mpr ⟨capped, (le_log2_iff (by omega)).mpr length⟩
      exact larger (Alignment.le_alignedOrder allowed (start ▸ aligned))
    rcases List.mem_cons.mp mem with rfl | later
    · exact covers after
    · by_cases inside : cell.position < position + twoPow order
      · have first : Tile.Aligned ⟨position, order⟩ := (tileOrder_fits cap below).2.1
        have contained := aligned.within first (covers inside)
          (Nat.lt_of_le_of_lt from_start cell.position_lt_stop) inside
        have next := (of_mem_tiling later).1
        exact absurd (Nat.lt_of_lt_of_le before contained.2) (Nat.not_lt.mpr next)
      · exact ih later (Nat.le_of_not_lt inside)
  | case2 => cases mem

namespace Block

/-- Whether the block is handed out. -/
def isAllocated (block : Block) : Bool := block.state = .allocated

/-- Whether the block is split. -/
def isSplit (block : Block) : Bool := !block.isLeaf

/-- Whether the block is one that the space started with. -/
def isRoot (block : Block) : Bool := block.family.isNone

@[simp] theorem isAllocated_outline (block : Block) :
    block.outline.isAllocated = block.isAllocated := by
  rcases block with ⟨_, _, _, _ | _ | _ | _, _⟩ <;> rfl

@[simp] theorem isSplit_outline (block : Block) : block.outline.isSplit = block.isSplit := by
  rcases block with ⟨_, _, _, _ | _ | _ | _, _⟩ <;> rfl

/-- A leaf that is neither loose nor handed out is free. -/
theorem isListed_of_leaf {block : Block} (leaf : block.isLeaf = true)
    (not_loose : block.state ≠ .loose) (not_allocated : block.isAllocated = false) :
    block.isListed = true := by
  rcases block with ⟨_, _, _, _ | _ | _ | _, _⟩
  case listed => rfl
  case loose => exact absurd rfl not_loose
  case split => cases leaf
  case allocated => cases not_allocated

/-- A free block is a leaf. -/
theorem isLeaf_of_isListed {block : Block} (listed : block.isListed = true) :
    block.isLeaf = true := by
  obtain ⟨_, _, state⟩ := isListed_iff.mp listed
  unfold isLeaf
  rw [state]

/-- A free block is not handed out. -/
theorem not_allocated_of_isListed {block : Block} (listed : block.isListed = true) :
    block.state ≠ .allocated := by
  obtain ⟨_, _, state⟩ := isListed_iff.mp listed
  rw [state]
  exact BlockState.noConfusion

/-- A block that is handed out is a leaf. -/
theorem isLeaf_of_isAllocated {block : Block} (allocated : block.isAllocated = true) :
    block.isLeaf = true := isLeaf_of_allocated (of_decide_eq_true allocated)

end Block

/-- A block of a kind is under a handle and has this place. -/
def HoldsAt (blocks : BlockId → Option Block) (kind : Block → Bool) (tile : Tile) : Prop :=
  ∃ id block, blocks id = some block ∧ kind block = true ∧ block.tile = tile

/-- Two halves of one block that are both free. -/
def FreePair (blocks : BlockId → Option Block) (one other : BlockId) : Prop :=
  ∃ half buddy family, blocks one = some half ∧ half.isListed = true ∧
    half.family = some family ∧ family.buddy = other ∧
    blocks other = some buddy ∧ buddy.isListed = true

/-- No two halves of one block are both free. -/
def Merged (blocks : BlockId → Option Block) : Prop := ∀ one other, ¬ FreePair blocks one other

/-- The halves of a block lie in it. -/
theorem AreHalves.within {id left right : BlockId} {block leftHalf rightHalf : Block} {order : Nat}
    (halves : AreHalves id left right block leftHalf rightHalf order) :
    leftHalf.tile.Within block.tile ∧ rightHalf.tile.Within block.tile := by
  have length : twoPow block.order = twoPow order + twoPow order :=
    Block.span_of_order_succ halves.above
  unfold Tile.Within Tile.stop
  rw [Block.tile_position, Block.tile_position, Block.tile_position, Block.tile_order,
    Block.tile_order, Block.tile_order, halves.left_position, halves.right_position,
    halves.left_order, halves.right_order, length]
  omega

namespace Forest

variable {units maxOrder : Nat} {blocks : BlockId → Option Block} {id other : BlockId}
  {block held : Block} {family : Family} {unit : Nat}

/-- Blocks lie at multiples of their lengths. -/
theorem aligned (forest : Forest units maxOrder blocks) (found : blocks id = some block) :
    block.tile.Aligned :=
  (forest.fits found).aligned

/-- A split block has its halves. -/
theorem exists_halves (forest : Forest units maxOrder blocks) (found : blocks id = some block)
    (no_leaf : block.isLeaf = false) :
    ∃ left right leftHalf rightHalf order, block.state = .split left right ∧
      blocks left = some leftHalf ∧ blocks right = some rightHalf ∧
      AreHalves id left right block leftHalf rightHalf order := by
  have divided : ∃ left right, block.state = .split left right := by
    rcases block with ⟨_, _, _, _ | _ | ⟨left, right⟩ | _, _⟩
    case split => exact ⟨left, right, rfl⟩
    all_goals cases no_leaf
  obtain ⟨left, right, state⟩ := divided
  obtain ⟨-, -, ⟨leftHalf, at_left, -⟩, ⟨rightHalf, at_right, -⟩⟩ := forest.halves found state
  obtain ⟨order, halves⟩ := forest.areHalves found state at_left at_right
  exact ⟨left, right, leftHalf, rightHalf, order, state, at_left, at_right, halves⟩

/-- A half and its buddy are the halves of their parent. -/
theorem exists_family (forest : Forest units maxOrder blocks) (found : blocks id = some block)
    (related : block.family = some family) :
    ∃ parent buddy order, blocks family.parent = some parent ∧ parent.isLeaf = false ∧
      blocks family.buddy = some buddy ∧
      (AreHalves family.parent id family.buddy parent block buddy order ∨
        AreHalves family.parent family.buddy id parent buddy block order) := by
  obtain ⟨parent, above, divided⟩ := forest.parent found related
  have no_leaf := Block.isLeaf_of_split divided
  rcases divided with split | split
  · obtain ⟨-, -, -, buddy, at_buddy, -⟩ := forest.halves above split
    obtain ⟨order, halves⟩ := forest.areHalves above split found at_buddy
    exact ⟨parent, buddy, order, above, no_leaf, at_buddy, .inl halves⟩
  · obtain ⟨-, -, ⟨buddy, at_buddy, -⟩, -⟩ := forest.halves above split
    obtain ⟨order, halves⟩ := forest.areHalves above split at_buddy found
    exact ⟨parent, buddy, order, above, no_leaf, at_buddy, .inr halves⟩

/-- The buddy of a half has the half as its own buddy. -/
theorem exists_buddy (forest : Forest units maxOrder blocks) (found : blocks id = some block)
    (related : block.family = some family) :
    ∃ buddy, blocks family.buddy = some buddy ∧ buddy.family = some ⟨family.parent, id⟩ := by
  obtain ⟨_, buddy, _, _, _, at_buddy, halves⟩ := forest.exists_family found related
  rcases halves with halves | halves
  · exact ⟨buddy, at_buddy, halves.right_family⟩
  · exact ⟨buddy, at_buddy, halves.left_family⟩

/-- A half is not its own buddy. -/
theorem buddy_ne (forest : Forest units maxOrder blocks) (found : blocks id = some block)
    (related : block.family = some family) : family.buddy ≠ id := by
  intro same
  obtain ⟨parent, buddy, order, _, _, at_buddy, halves⟩ := forest.exists_family found related
  rw [same, found, Option.some.injEq] at at_buddy
  subst at_buddy
  have length := twoPow_pos order
  rcases halves with halves | halves
  · have left := halves.left_position
    have right := halves.right_position
    omega
  · have left := halves.left_position
    have right := halves.right_position
    omega

/-- A half lies in its parent, which is split and has the next order. -/
theorem exists_parent (forest : Forest units maxOrder blocks) (found : blocks id = some block)
    (related : block.family = some family) :
    ∃ parent, blocks family.parent = some parent ∧ parent.isLeaf = false ∧
      parent.order = block.order + 1 ∧ block.tile.Within parent.tile := by
  obtain ⟨parent, buddy, order, above, no_leaf, _, halves⟩ := forest.exists_family found related
  rcases halves with halves | halves
  · exact ⟨parent, above, no_leaf, by rw [halves.above, halves.left_order], halves.within.1⟩
  · exact ⟨parent, above, no_leaf, by rw [halves.above, halves.right_order], halves.within.2⟩

/-- At each of its units a block has a leaf in it, a smaller one if it is split. -/
theorem exists_leaf (forest : Forest units maxOrder blocks) {id : BlockId} {block : Block}
    (found : blocks id = some block) (covers : block.Covers unit) :
    ∃ leaf held, blocks leaf = some held ∧ held.isLeaf = true ∧ held.Covers unit ∧
      held.order ≤ block.order ∧ (block.isLeaf = false → held.order < block.order) := by
  cases whole : block.isLeaf with
  | true => exact ⟨id, block, found, whole, covers, Nat.le_refl _, fun split => by cases split⟩
  | false =>
    obtain ⟨left, right, leftHalf, rightHalf, order, -, at_left, at_right, halves⟩ :=
      forest.exists_halves found whole
    have above := halves.above
    have left_order := halves.left_order
    have right_order := halves.right_order
    rcases halves.covers_iff.mp covers with on_left | on_right
    · obtain ⟨leaf, held, under, is_leaf, at_unit, smaller, -⟩ := forest.exists_leaf at_left on_left
      exact ⟨leaf, held, under, is_leaf, at_unit, by omega, fun _ => by omega⟩
    · obtain ⟨leaf, held, under, is_leaf, at_unit, smaller, -⟩ :=
        forest.exists_leaf at_right on_right
      exact ⟨leaf, held, under, is_leaf, at_unit, by omega, fun _ => by omega⟩
termination_by block.order

/-- A split block and a leaf do not have the same place. -/
theorem not_leaf_of_tile (forest : Forest units maxOrder blocks) (found : blocks id = some block)
    (under : blocks other = some held) (no_leaf : block.isLeaf = false)
    (place : block.tile = held.tile) : held.isLeaf = false := by
  by_contra leaf
  rw [Bool.not_eq_false] at leaf
  have first : block.Covers block.position :=
    ⟨Nat.le_refl _, block.tile.position_lt_stop⟩
  have same_first : held.Covers block.position := by
    have position : block.position = held.position := congrArg Tile.position place
    rw [position]
    exact ⟨Nat.le_refl _, held.tile.position_lt_stop⟩
  obtain ⟨low, lower, at_low, low_leaf, covers, -, smaller⟩ := forest.exists_leaf found first
  obtain rfl : low = other := forest.leafAt_unique ⟨lower, at_low, low_leaf, covers⟩
    ⟨held, under, leaf, same_first⟩
  rw [under, Option.some.injEq] at at_low
  have order : block.order = held.order := congrArg Tile.order place
  have := smaller no_leaf
  rw [← at_low] at this
  omega

/-- Blocks in one place are one block. -/
theorem eq_of_tile (forest : Forest units maxOrder blocks) {id other : BlockId}
    {block held : Block} (found : blocks id = some block) (under : blocks other = some held)
    (place : block.tile = held.tile) : id = other := by
  have position : block.position = held.position := congrArg Tile.position place
  have order : block.order = held.order := congrArg Tile.order place
  cases whole : block.isLeaf with
  | true =>
    have leaf : held.isLeaf = true := by
      by_contra no_leaf
      rw [Bool.not_eq_true] at no_leaf
      have := forest.not_leaf_of_tile under found no_leaf place.symm
      rw [whole] at this
      cases this
    have first : held.Covers block.position := by
      rw [position]
      exact ⟨Nat.le_refl _, held.tile.position_lt_stop⟩
    exact forest.leafAt_unique
      ⟨block, found, whole, Nat.le_refl _, block.tile.position_lt_stop⟩ ⟨held, under, leaf, first⟩
  | false =>
    have no_leaf := forest.not_leaf_of_tile found under whole place
    obtain ⟨left, right, leftHalf, _, lower, -, at_left, -, halves⟩ :=
      forest.exists_halves found whole
    obtain ⟨left', right', leftHalf', _, lower', -, at_left', -, halves'⟩ :=
      forest.exists_halves under no_leaf
    have above := halves.above
    have above' := halves'.above
    have same_left : leftHalf.tile = leftHalf'.tile := by
      unfold Block.tile
      rw [halves.left_position, halves'.left_position, position, halves.left_order,
        halves'.left_order]
      congr 1
      omega
    have smaller : leftHalf.order < block.order := by
      rw [halves.left_order]
      omega
    obtain rfl : left = left' := forest.eq_of_tile at_left at_left' same_left
    have same_half : leftHalf = leftHalf' := Option.some.inj (at_left.symm.trans at_left')
    have family := halves.left_family
    rw [same_half, halves'.left_family, Option.some.injEq, Family.mk.injEq] at family
    exact family.1.symm
termination_by block.order

/-- From a block the forest goes up to any greater order, unless it ends at a root before. -/
theorem exists_above (forest : Forest units maxOrder blocks) (found : blocks id = some block)
    {order : Nat} (le : block.order ≤ order) :
    (∃ top held, blocks top = some held ∧ held.isRoot = true ∧ held.order < order ∧
        block.tile.Within held.tile) ∨
      ∃ node held, blocks node = some held ∧ held.order = order ∧ block.tile.Within held.tile ∧
        (block.order < order → held.isLeaf = false) := by
  induction le with
  | refl =>
    exact .inr ⟨id, block, found, rfl, ⟨Nat.le_refl _, Nat.le_refl _⟩, fun less => by omega⟩
  | @step order le ih =>
    rcases ih with ⟨top, held, at_top, root, lower, within⟩ | ⟨node, held, at_node, same, within, -⟩
    · exact .inl ⟨top, held, at_top, root, by omega, within⟩
    · cases related : held.family with
      | none =>
        have root : held.isRoot = true := by unfold Block.isRoot; rw [related]; rfl
        exact .inl ⟨node, held, at_node, root, by omega, within⟩
      | some family =>
        obtain ⟨parent, above, no_leaf, next, inside⟩ := forest.exists_parent at_node related
        have contained : block.tile.Within parent.tile :=
          ⟨Nat.le_trans inside.1 within.1, Nat.le_trans within.2 inside.2⟩
        exact .inr ⟨family.parent, parent, above, by omega, contained, fun _ => no_leaf⟩

/-- Where halves of one block are never both free, a split block has a leaf in it that is not
free. -/
theorem exists_unlisted (forest : Forest units maxOrder blocks) (merged : Merged blocks)
    {id : BlockId} {block : Block} (found : blocks id = some block)
    (no_leaf : block.isLeaf = false) :
    ∃ leaf held, blocks leaf = some held ∧ held.isLeaf = true ∧ held.isListed = false ∧
      held.tile.Within block.tile ∧ held.order < block.order := by
  obtain ⟨left, right, leftHalf, rightHalf, order, -, at_left, at_right, halves⟩ :=
    forest.exists_halves found no_leaf
  have above := halves.above
  have left_smaller : leftHalf.order < block.order := by
    rw [halves.left_order]
    omega
  have right_smaller : rightHalf.order < block.order := by
    rw [halves.right_order]
    omega
  obtain ⟨on_left, on_right⟩ := halves.within
  cases left_leaf : leftHalf.isLeaf with
  | false =>
    obtain ⟨leaf, held, under, is_leaf, unlisted, within, lower⟩ :=
      forest.exists_unlisted merged at_left left_leaf
    exact ⟨leaf, held, under, is_leaf, unlisted, ⟨Nat.le_trans on_left.1 within.1,
      Nat.le_trans within.2 on_left.2⟩, by omega⟩
  | true =>
    cases right_leaf : rightHalf.isLeaf with
    | false =>
      obtain ⟨leaf, held, under, is_leaf, unlisted, within, lower⟩ :=
        forest.exists_unlisted merged at_right right_leaf
      exact ⟨leaf, held, under, is_leaf, unlisted, ⟨Nat.le_trans on_right.1 within.1,
        Nat.le_trans within.2 on_right.2⟩, by omega⟩
    | true =>
      cases left_listed : leftHalf.isListed with
      | false => exact ⟨left, leftHalf, at_left, left_leaf, left_listed, on_left, left_smaller⟩
      | true =>
        have right_unlisted : rightHalf.isListed = false := by
          by_contra right_listed
          rw [Bool.not_eq_false] at right_listed
          exact merged left right ⟨leftHalf, rightHalf, _, at_left, left_listed,
            halves.left_family, rfl, at_right, right_listed⟩
        exact ⟨right, rightHalf, at_right, right_leaf, right_unlisted, on_right, right_smaller⟩
termination_by block.order

end Forest

end GpuSched.Buddy
