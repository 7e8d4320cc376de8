import GpuSched.Proofs.Buddy.Nodes
import Mathlib.Data.Set.Card
import Mathlib.Order.Interval.Set.Nat

/-!
# Counting blocks

How many blocks of a kind and an order there are changes by at most one when one block changes. The
number depends on the places of the blocks only, and a forest has fewer than two blocks for each
unit of its space.
-/
namespace GpuSched.Buddy

/-- The handles of the blocks of a kind and an order. -/
def handlesOf (blocks : BlockId → Option Block) (kind : Block → Bool) (order : Nat) :
    Set BlockId :=
  {id | ∃ block, blocks id = some block ∧ kind block = true ∧ block.order = order}

/-- What a handle adds to the number of blocks of a kind and an order. -/
def weight (kind : Block → Bool) (order : Nat) : Option Block → Nat
  | none => 0
  | some block => if kind block = true ∧ block.order = order then 1 else 0

/-- Which blocks of a kind there are shows in the outline of an arena. -/
theorem handlesOf_outline {arena : Arena} {kind : Block → Bool}
    (visible : ∀ block : Block, kind block.outline = kind block) (order : Nat) :
    handlesOf arena.outline kind order = handlesOf arena.block? kind order := by
  ext id
  constructor
  · rintro ⟨drawn, found, of_kind, rfl⟩
    obtain ⟨block, under, rfl⟩ := Arena.block?_of_outline found
    exact ⟨block, under, by rwa [visible] at of_kind, (Block.outline_order block).symm⟩
  · rintro ⟨block, under, of_kind, rfl⟩
    exact ⟨block.outline, Arena.outline_of_block? under, by rwa [visible],
      Block.outline_order block⟩

/-- The handles with blocks are finitely many. -/
def FinitelyMany (blocks : BlockId → Option Block) : Prop := {id | blocks id ≠ none}.Finite

section Counting

variable {blocks blocks' : BlockId → Option Block} {kind : Block → Bool} {order : Nat}
  {id : BlockId}

/-- A handle is counted when it has weight. -/
theorem mem_handlesOf_iff :
    id ∈ handlesOf blocks kind order ↔ weight kind order (blocks id) = 1 := by
  change (∃ block, blocks id = some block ∧ kind block = true ∧ block.order = order) ↔ _
  cases blocks id <;> simp [weight]

/-- A block weighs nothing or one. -/
theorem weight_le_one (kind : Block → Bool) (order : Nat) (held : Option Block) :
    weight kind order held ≤ 1 := by
  unfold weight
  split
  · exact Nat.zero_le 1
  · split <;> decide

/-- Blocks of a kind and an order are finitely many when all blocks are. -/
theorem FinitelyMany.handlesOf (finite : FinitelyMany blocks) :
    (handlesOf blocks kind order).Finite := by
  refine finite.subset ?_
  rintro id ⟨block, found, -⟩ empty
  rw [found] at empty
  cases empty

/-- A change under one handle keeps the blocks finitely many. -/
theorem FinitelyMany.update (finite : FinitelyMany blocks) (id : BlockId)
    (changed : Option Block) :
    FinitelyMany (Function.update blocks id changed) := by
  refine (finite.insert id).subset ?_
  intro other present
  by_cases same : other = id
  · exact .inl same
  · have kept : Function.update blocks id changed other = blocks other :=
      Function.update_of_ne same changed blocks
    exact .inr fun empty => present (kept.trans empty)

/-- A change under one handle takes the weight of the old block off and adds that of the new one. -/
theorem ncard_handlesOf_update (finite : FinitelyMany blocks) (kind : Block → Bool) (order : Nat)
    (id : BlockId) (changed : Option Block) :
    (handlesOf (Function.update blocks id changed) kind order).ncard +
        weight kind order (blocks id) =
      (handlesOf blocks kind order).ncard + weight kind order changed := by
  have others : handlesOf (Function.update blocks id changed) kind order \ {id} =
      handlesOf blocks kind order \ {id} := by
    ext other
    by_cases same : other = id
    · simp [same]
    · simp [mem_handlesOf_iff, same]
  have counted : ∀ held : BlockId → Option Block, FinitelyMany held →
      (handlesOf held kind order).ncard =
        (handlesOf held kind order \ {id}).ncard + weight kind order (held id) := by
    intro held finite
    by_cases mem : id ∈ handlesOf held kind order
    · have whole := Set.ncard_sdiff_singleton_add_one mem finite.handlesOf
      rw [mem_handlesOf_iff.mp mem, whole]
    · have empty : weight kind order (held id) = 0 := by
        have bound := weight_le_one kind order (held id)
        have light := mt mem_handlesOf_iff.mpr mem
        omega
      rw [Set.sdiff_singleton_eq_self mem, empty, Nat.add_zero]
  rw [counted _ (finite.update id changed), counted _ finite, others, Function.update_self]
  omega

/-- Where all blocks are free none is handed out or split. -/
theorem none_used_of_free
    (free : ∀ {id block}, blocks id = some block → block.isListed = true) (order : Nat) :
    (handlesOf blocks Block.isAllocated order).ncard = 0 ∧
      (handlesOf blocks Block.isSplit order).ncard = 0 := by
  have none_of : ∀ kind : Block → Bool, (∀ block : Block, block.isListed = true →
      kind block = false) → (handlesOf blocks kind order).ncard = 0 := by
    intro kind other
    have no_handles : handlesOf blocks kind order = ∅ := by
      refine Set.eq_empty_iff_forall_notMem.mpr ?_
      rintro id ⟨block, found, of_kind, -⟩
      rw [other block (free found)] at of_kind
      cases of_kind
    rw [no_handles, Set.ncard_empty]
  constructor
  · exact none_of _ fun block listed => by
      simpa [Block.isAllocated] using Block.not_allocated_of_isListed listed
  · exact none_of _ fun block listed => by simp [Block.isSplit, Block.isLeaf_of_isListed listed]

/-- The number of blocks of a kind depends on their places only. -/
theorem ncard_handlesOf_congr {units units' maxOrder maxOrder' : Nat}
    (one : Forest units maxOrder blocks) (other : Forest units' maxOrder' blocks')
    (same : ∀ cell, HoldsAt blocks kind cell ↔ HoldsAt blocks' kind cell) :
    (handlesOf blocks kind order).ncard = (handlesOf blocks' kind order).ncard := by
  have partner : ∀ id ∈ handlesOf blocks kind order, ∃ block id' block',
      blocks id = some block ∧ blocks' id' = some block' ∧ kind block' = true ∧
        block'.order = order ∧ block.tile = block'.tile := by
    rintro id ⟨block, found, of_kind, of_order⟩
    obtain ⟨id', block', found', of_kind', place⟩ :=
      (same block.tile).mp ⟨id, block, found, of_kind, rfl⟩
    have same_order : block'.order = block.order := congrArg Tile.order place
    exact ⟨block, id', block', found, found', of_kind', same_order.trans of_order, place.symm⟩
  choose block id' block' found found' of_kind of_order place using partner
  refine Set.ncard_congr id' ?_ ?_ ?_
  · exact fun id mem => ⟨_, found' id mem, of_kind id mem, of_order id mem⟩
  · intro first second mem mem' same_id
    have equal : block' first mem = block' second mem' := by
      have under := found' first mem
      rw [same_id, found' second mem', Option.some.injEq] at under
      exact under.symm
    refine one.eq_of_tile (found first mem) (found second mem') ?_
    rw [place first mem, place second mem', equal]
  · rintro target ⟨held, at_target, target_kind, target_order⟩
    obtain ⟨source, below, at_source, source_kind, source_place⟩ :=
      (same held.tile).mpr ⟨target, held, at_target, target_kind, rfl⟩
    have source_order : below.order = held.order := congrArg Tile.order source_place
    have mem : source ∈ handlesOf blocks kind order :=
      ⟨below, at_source, source_kind, source_order.trans target_order⟩
    refine ⟨source, mem, other.eq_of_tile (found' source mem) at_target ?_⟩
    have equal : block source mem = below :=
      Option.some.inj ((found source mem).symm.trans at_source)
    rw [← place source mem, equal, source_place]

end Counting

/-- A number of its own for each block of a forest: a leaf has one from its first unit, a split
block one from the first unit of its right half. -/
def Block.number (block : Block) : Nat :=
  if block.isLeaf then 2 * block.position - 1
  else 2 * (block.position + twoPow (block.order - 1))

namespace Forest

variable {units maxOrder : Nat} {blocks : BlockId → Option Block} {id other : BlockId}
  {block held : Block}

/-- The right half of a split block starts at an odd multiple of its length, so split blocks whose
right halves start at one unit have one order. -/
theorem order_le_of_middle (forest : Forest units maxOrder blocks) (found : blocks id = some block)
    (under : blocks other = some held) (positive : 0 < block.order)
    (middle : block.position + twoPow (block.order - 1) =
      held.position + twoPow (held.order - 1)) : held.order ≤ block.order := by
  by_contra larger
  have half : twoPow (block.order - 1 + 1) = 2 * twoPow (block.order - 1) := twoPow_succ _
  rw [Nat.sub_add_cancel positive] at half
  have own : twoPow block.order ∣ block.position :=
    Nat.dvd_of_mod_eq_zero (forest.fits found).aligned
  have whole : twoPow block.order ∣ held.position + twoPow (held.order - 1) := by
    have aligned : twoPow held.order ∣ held.position :=
      Nat.dvd_of_mod_eq_zero (forest.fits under).aligned
    refine Nat.dvd_add ?_ (twoPow_dvd_twoPow (by omega))
    exact Nat.dvd_trans (twoPow_dvd_twoPow (by omega)) aligned
  have divides : twoPow block.order ∣ twoPow (block.order - 1) := by
    rw [← middle] at whole
    exact (Nat.dvd_add_right own).mp whole
  have bound := Nat.le_of_dvd (twoPow_pos _) divides
  have := twoPow_pos (block.order - 1)
  omega

/-- Different blocks have different numbers. -/
theorem number_injective (forest : Forest units maxOrder blocks) (found : blocks id = some block)
    (under : blocks other = some held) (same : block.number = held.number) : id = other := by
  unfold Block.number at same
  have middle_pos := twoPow_pos (block.order - 1)
  have middle_pos' := twoPow_pos (held.order - 1)
  cases one : block.isLeaf <;> cases two : held.isLeaf <;>
    simp only [one, two, if_true, Bool.false_eq_true, if_false] at same
  case true.true =>
    have position : block.position = held.position := by omega
    have first : block.Covers block.position := ⟨Nat.le_refl _, block.tile.position_lt_stop⟩
    have same_first : held.Covers block.position := by
      rw [position]
      exact ⟨Nat.le_refl _, held.tile.position_lt_stop⟩
    exact forest.leafAt_unique ⟨block, found, one, first⟩ ⟨held, under, two, same_first⟩
  case true.false => omega
  case false.true => omega
  case false.false =>
    have middle : block.position + twoPow (block.order - 1) =
        held.position + twoPow (held.order - 1) := by omega
    obtain ⟨_, _, _, _, _, -, -, -, halves⟩ := forest.exists_halves found one
    obtain ⟨_, _, _, _, _, -, -, -, halves'⟩ := forest.exists_halves under two
    have above := halves.above
    have above' := halves'.above
    have lower := forest.order_le_of_middle found under (by omega) middle
    have upper := forest.order_le_of_middle under found (by omega) middle.symm
    have order : block.order = held.order := Nat.le_antisymm upper lower
    rw [order] at middle
    have position : block.position = held.position := by omega
    refine forest.eq_of_tile found under ?_
    unfold Block.tile
    rw [position, order]

/-- The numbers of blocks are small. -/
theorem number_lt (forest : Forest units maxOrder blocks) (found : blocks id = some block) :
    block.number < 2 * units - 1 := by
  have inside : block.position + twoPow block.order ≤ units := (forest.fits found).inside
  unfold Block.number
  split
  · have := twoPow_pos block.order
    omega
  · rename_i split
    obtain ⟨_, _, _, _, lower, -, -, -, halves⟩ :=
      forest.exists_halves found (by simpa using split)
    have half : twoPow (lower + 1) = 2 * twoPow lower := twoPow_succ lower
    rw [← halves.above] at half
    rw [halves.above, Nat.add_sub_cancel]
    have := twoPow_pos lower
    omega

/-- A forest has fewer than two blocks for each unit. -/
theorem size_le (forest : Forest units maxOrder blocks) {size : Nat}
    (used : ∀ id < size, blocks id ≠ .none) : size ≤ 2 * units - 1 := by
  have found : ∀ id, ∃ block, id < size → blocks id = some block := by
    intro id
    by_cases inside : id < size
    · obtain ⟨block, present⟩ := Option.ne_none_iff_exists'.mp (used id inside)
      exact ⟨block, fun _ => present⟩
    · exact ⟨⟨0, 0, .any, .loose, .none⟩, fun below => absurd below inside⟩
  choose block found using found
  have fewer : (Set.Iio size).ncard ≤ (Set.Iio (2 * units - 1)).ncard := by
    refine Set.ncard_le_ncard_of_injOn (fun id => (block id).number) ?_ ?_ (Set.finite_Iio _)
    · exact fun id inside => forest.number_lt (found id inside)
    · exact fun one inside two inside' same =>
        forest.number_injective (found one inside) (found two inside') same
  rwa [Set.ncard_Iio_nat, Set.ncard_Iio_nat] at fewer

end Forest

end GpuSched.Buddy
