import GpuSched.Buddy.Stats
import GpuSched.Proofs.Buddy.Upkeep

/-!
# What is free depends on what is live

The blocks that are handed out lie where the live allocations say. As what is handed out decides
what is free and what is split, two runs that leave the same allocations live leave the same blocks
free and the same counts, and when nothing is live the space is tiled as it was at the start.
-/
namespace GpuSched.Buddy

open Operation

/-- A live allocation, without what the caller asked for: an ordinary one has a block of an order, a
fixed one has its range. -/
inductive Extent where
  | ordinary (address order : Nat)
  | fixed (base len : Nat)
  deriving DecidableEq, Repr

/-- The places of the blocks of an allocation. -/
def Extent.tiles (space : Space) : Extent → List Tile
  | .ordinary address order => [⟨space.position address, order⟩]
  | .fixed base len => space.rangeTiles base len

namespace Allocator

/-- The allocation of a range that a caller holds. -/
def extentOf (allocator : Allocator) : Holding → Extent
  | .ordinary address _ => .ordinary address ((allocator.orderAt address).getD 0)
  | .fixed base len => .fixed base len

/-- A tile is the place of a block on the free list of its order. -/
def IsFree (allocator : Allocator) (tile : Tile) : Prop :=
  ∃ blocks, allocator.arena.listed tile.order false = .ok blocks ∧
    ∃ entry ∈ blocks, entry.2.position = tile.position

section History

variable {request : SpaceRequest} {allocator one other : Allocator} {ledger ledger' : List Holding}
  {calls calls' : List Request}

/-- The blocks on the free lists are the free blocks, with their page sizes. -/
theorem exists_listed_iff {hand : List BlockId} (settled : allocator.Settled hand) (tile : Tile)
    (kind : PageClass → Prop) :
    (∃ blocks, allocator.arena.listed tile.order false = .ok blocks ∧
      ∃ entry ∈ blocks, entry.2.position = tile.position ∧ kind entry.2.pageClass) ↔
    ∃ id block, allocator.arena.outline id = some block ∧ block.isListed = true ∧
      block.tile = tile ∧ kind block.pageClass := by
  constructor
  · rintro ⟨blocks, run, ⟨id, block⟩, mem, position, serves⟩
    obtain ⟨found, order, listed⟩ := Arena.of_mem_listed settled.sound run mem
    refine ⟨id, block.outline, Arena.outline_of_block? found, by rwa [Block.isListed_outline], ?_,
      by rwa [Block.outline_pageClass]⟩
    rw [Block.outline_tile]
    unfold Block.tile
    rw [order]
    dsimp only at position
    rw [position]
  · rintro ⟨id, drawn, found, listed, rfl, serves⟩
    obtain ⟨block, under, rfl⟩ := Arena.block?_of_outline found
    obtain ⟨blocks, run, all⟩ :=
      Arena.exists_listed settled.sound (settled.has_list found) false
    rw [Block.isListed_outline] at listed
    rw [Block.outline_pageClass] at serves
    refine ⟨blocks, run, (id, block), (all id block).mpr ⟨under, ?_, listed⟩, ?_, serves⟩
    · rw [Block.outline_order]
    · rw [Block.tile_position, Block.outline_position]

/-- The tiles on the free lists are those of the free blocks. -/
theorem isFree_iff {hand : List BlockId} (settled : allocator.Settled hand) (tile : Tile) :
    allocator.IsFree tile ↔ HoldsAt allocator.arena.outline Block.isListed tile := by
  unfold IsFree HoldsAt
  simpa only [and_true] using exists_listed_iff settled tile fun _ => True

/-- The length of a free list is the number of free blocks of its order. -/
theorem listLength_eq {hand : List BlockId} (settled : allocator.Settled hand) {order : Nat}
    (capped : order ≤ allocator.space.maxOrder) : allocator.arena.listLength order =
      (handlesOf allocator.arena.outline Block.isListed order).ncard := by
  obtain ⟨queue, queued⟩ := settled.sound.queued
  have room : order < allocator.arena.lists.size := by
    rw [settled.housed.lists]
    exact Nat.lt_succ_of_le capped
  obtain ⟨list, present⟩ := Arena.exists_list room
  have length : allocator.arena.listLength order = (queue order).length := by
    unfold Arena.listLength
    rw [Array.getD_eq_getD_getElem?, present, Option.getD_some, queued.ends order list present]
  have same : handlesOf allocator.arena.outline Block.isListed order =
      ((queue order).toFinset : Set BlockId) := by
    ext id
    rw [List.coe_toFinset]
    constructor
    · rintro ⟨drawn, found, listed, rfl⟩
      obtain ⟨block, under, rfl⟩ := Arena.block?_of_outline found
      rw [Block.isListed_outline] at listed
      rw [Block.outline_order]
      exact queued.complete id block under listed
    · intro mem
      obtain ⟨block, found, rfl, listed⟩ := queued.of_mem mem
      exact ⟨block.outline, Arena.outline_of_block? found, by rwa [Block.isListed_outline],
        Block.outline_order block⟩
  rw [length, same, Set.ncard_coe_finset, List.toFinset_card_of_nodup (queued.nodup order)]

/-- The blocks that are handed out are those of the live allocations. -/
theorem allocatedAt_iff (kept : allocator.Kept request ledger) (tended : allocator.Tended ledger)
    (tile : Tile) : HoldsAt allocator.arena.outline Block.isAllocated tile ↔
      ∃ extent ∈ ledger.map allocator.extentOf, tile ∈ extent.tiles allocator.space := by
  constructor
  · rintro ⟨id, block, found, in_use, rfl⟩
    obtain ⟨owner, owns⟩ := tended.owned ⟨found, of_decide_eq_true in_use⟩
    obtain ⟨holding, mem, rfl⟩ := tended.granted (hasRecord_of_owns owns)
    refine ⟨allocator.extentOf holding, List.mem_map_of_mem mem, ?_⟩
    cases holding with
    | ordinary address len =>
      obtain ⟨id', held, present, at_id, -, start, order, -⟩ := kept.block_of_ordinary mem
      obtain rfl : id = id' := Option.some.inj (owns.symm.trans present)
      obtain rfl : block = held := Option.some.inj (found.symm.trans at_id)
      unfold extentOf Extent.tiles
      dsimp only
      rw [order, start, Space.position_address]
      exact List.mem_singleton_self _
    | fixed base len =>
      obtain ⟨range, present, there⟩ := owns
      obtain ⟨same, also, rfl⟩ := kept.live _ mem
      obtain rfl : range = same := Option.some.inj (present.symm.trans also)
      obtain ⟨tile, mem_tile, held, at_id, -, position, order⟩ :=
        exists_partner_of (kept.recorded.fixed present).2 there
      obtain rfl : block = held := Option.some.inj (found.symm.trans at_id)
      have place : block.tile = tile := by
        unfold Block.tile
        rw [position, order]
      rw [place]
      exact mem_tile
  · rintro ⟨extent, mem, inside⟩
    obtain ⟨holding, there, rfl⟩ := List.mem_map.mp mem
    cases holding with
    | ordinary address len =>
      obtain ⟨id, block, -, at_id, allocated, start, order, -⟩ := kept.block_of_ordinary there
      unfold extentOf Extent.tiles at inside
      dsimp only at inside
      rw [order, start, Space.position_address, List.mem_singleton] at inside
      exact ⟨id, block, at_id, decide_eq_true allocated, inside.symm⟩
    | fixed base len =>
      obtain ⟨range, present, rfl⟩ := kept.live _ there
      obtain ⟨id, -, block, at_id, allocated, position, order⟩ :=
        exists_partner (kept.recorded.fixed present).2 inside
      refine ⟨id, block, at_id, decide_eq_true allocated, ?_⟩
      unfold Block.tile
      rw [position, order]

/-- The numbers that an allocator reports for an order are those of its blocks. -/
theorem Tended.orderStats_eq (tended : allocator.Tended ledger) {order : Nat}
    (capped : order ≤ allocator.space.maxOrder) : allocator.orderStats order =
      { order
        blockLength := allocator.space.blockLength order
        free := (handlesOf allocator.arena.outline Block.isListed order).ncard
        allocated := (handlesOf allocator.arena.outline Block.isAllocated order).ncard
        split := (handlesOf allocator.arena.outline Block.isSplit order).ncard } := by
  have settled := tended.settled
  have inside : order < allocator.counts.size := by
    rw [settled.sized]
    exact Nat.lt_succ_of_le capped
  have present : allocator.counts[order]? = some allocator.counts[order] :=
    Array.getElem?_eq_getElem inside
  obtain ⟨allocated, split⟩ := settled.counted order _ present
  unfold orderStats
  rw [listLength_eq settled capped, Array.getD_eq_getD_getElem?, present, Option.getD_some,
    allocated, split]

/-- Allocators with the same live allocations in the same space have the same blocks free and the
same counts. -/
theorem Tended.same_free (kept : one.Kept request ledger) (tended : one.Tended ledger)
    (kept' : other.Kept request ledger') (tended' : other.Tended ledger')
    (same : ∀ extent, extent ∈ ledger.map one.extentOf ↔ extent ∈ ledger'.map other.extentOf) :
    (∀ tile, one.IsFree tile ↔ other.IsFree tile) ∧ one.stats.orders = other.stats.orders := by
  have space : other.space = one.space := Except.ok.inj (kept'.space.symm.trans kept.space)
  have tidy' := tended'.tidy
  rw [space] at tidy'
  have allocated : ∀ tile, HoldsAt one.arena.outline Block.isAllocated tile ↔
      HoldsAt other.arena.outline Block.isAllocated tile := by
    intro tile
    rw [allocatedAt_iff kept tended, allocatedAt_iff kept' tended', space]
    simp only [same]
  have split := tended.tidy.splitAt_congr tidy' allocated
  have listed := tended.tidy.listedAt_congr tidy' allocated
  refine ⟨fun tile => ?_, ?_⟩
  · rw [isFree_iff tended.settled, isFree_iff tended'.settled, listed]
  · unfold stats
    dsimp only
    rw [space]
    refine List.map_congr_left fun order mem => ?_
    have capped : order ≤ one.space.maxOrder := Nat.le_of_lt_succ (List.mem_range.mp mem)
    rw [tended.orderStats_eq capped, tended'.orderStats_eq (space ▸ capped), space,
      ncard_handlesOf_congr tended.tidy.forest tidy'.forest listed,
      ncard_handlesOf_congr tended.tidy.forest tidy'.forest allocated,
      ncard_handlesOf_congr tended.tidy.forest tidy'.forest split]

/-- Two runs of calls that return and leave the same allocations live leave the same blocks free and
the same counts of every order. When no allocation is live, the free blocks are the tiles that the
space started with. -/
theorem free_of_live {start : Allocator} (created : create request = .ok start)
    (run : start.carryOut [] calls = some (one, ledger))
    (run' : start.carryOut [] calls' = some (other, ledger'))
    (same : ∀ extent, extent ∈ ledger.map one.extentOf ↔ extent ∈ ledger'.map other.extentOf) :
    (∀ tile, one.IsFree tile ↔ other.IsFree tile) ∧ one.stats.orders = other.stats.orders ∧
      (ledger = [] → ∀ tile, one.IsFree tile ↔ tile ∈ start.space.tiles) := by
  obtain ⟨kept, tended⟩ := kept_and_tended created run
  obtain ⟨kept', tended'⟩ := kept_and_tended created run'
  obtain ⟨free, counts⟩ := Tended.same_free kept tended kept' tended' same
  refine ⟨free, counts, ?_⟩
  rintro rfl tile
  have space : start.space = one.space :=
    Except.ok.inj ((Reached.start created).kept.space.symm.trans kept.space)
  have unused : ∀ cell, ¬ HoldsAt one.arena.outline Block.isAllocated cell := by
    intro cell holds
    obtain ⟨extent, mem, -⟩ := (allocatedAt_iff kept tended cell).mp holds
    cases mem
  rw [isFree_iff tended.settled, tended.tidy.listedAt_of_unused unused, space]
  rfl

/-- A range is taken by one caller at once, and by another after what it had elsewhere, with other
lengths asked for; and all that was taken is given back in another order. -/
theorem free_of_live_of_calls : ∃ start one other last : Allocator,
    (∀ tile, one.IsFree tile ↔ other.IsFree tile) ∧ one.stats.orders = other.stats.orders ∧
      (∀ tile, last.IsFree tile ↔ tile ∈ start.space.tiles) ∧
      create { name := "heap", base := 0x1000, length := 0x8000, blockSize := 0x1000 } =
        .ok start ∧
      start.carryOut [] [.allocate 0x1800 .any, .allocateFixed 0x5000 0x3000 .any] =
        some (one, [.fixed 0x5000 0x3000, .ordinary 0x1000 0x1800]) ∧
      start.carryOut [] [.allocate 0x4000 .any, .free 0x1000, .allocateFixed 0x5000 0x3000 .any,
          .allocate 0x800 .any, .allocate 0x2000 .any, .free 0x8000] =
        some (other, [.ordinary 0x1000 0x2000, .fixed 0x5000 0x3000]) ∧
      start.carryOut [] [.allocate 0x1800 .any, .allocateFixed 0x5000 0x3000 .any, .free 0x1000,
          .free 0x5000] = some (last, []) := by
  have outcome : ((create
      { name := "heap", base := 0x1000, length := 0x8000, blockSize := 0x1000 }).toOption.bind
        fun start => (start.carryOut [] [.allocate 0x1800 .any,
          .allocateFixed 0x5000 0x3000 .any]).bind fun (one, ledger) =>
        (start.carryOut [] [.allocate 0x4000 .any, .free 0x1000, .allocateFixed 0x5000 0x3000 .any,
          .allocate 0x800 .any, .allocate 0x2000 .any, .free 0x8000]).bind fun (other, ledger') =>
        (start.carryOut [] [.allocate 0x1800 .any, .allocateFixed 0x5000 0x3000 .any, .free 0x1000,
          .free 0x5000]).map fun (_, nothing) =>
        (ledger, ledger.map one.extentOf, ledger', ledger'.map other.extentOf, nothing)) =
      some ([.fixed 0x5000 0x3000, .ordinary 0x1000 0x1800],
        [.fixed 0x5000 0x3000, .ordinary 0x1000 1],
        [.ordinary 0x1000 0x2000, .fixed 0x5000 0x3000],
        [.ordinary 0x1000 1, .fixed 0x5000 0x3000], []) := by decide +kernel
  obtain ⟨start, created, ran⟩ := Option.bind_eq_some_iff.mp outcome
  obtain ⟨⟨one, ledger⟩, run, ran⟩ := Option.bind_eq_some_iff.mp ran
  obtain ⟨⟨other, ledger'⟩, run', ran⟩ := Option.bind_eq_some_iff.mp ran
  obtain ⟨⟨last, nothing⟩, run'', all⟩ := Option.map_eq_some_iff.mp ran
  simp only [Prod.mk.injEq] at all
  obtain ⟨rfl, extents, rfl, extents', rfl⟩ := all
  have started := eq_ok_of_toOption created
  have same : ∀ extent,
      extent ∈ [Holding.fixed 0x5000 0x3000, .ordinary 0x1000 0x1800].map one.extentOf ↔
        extent ∈ [Holding.ordinary 0x1000 0x2000, .fixed 0x5000 0x3000].map other.extentOf := by
    intro extent
    rw [extents, extents']
    simp [or_comm]
  obtain ⟨free, counts, -⟩ := free_of_live started run run' same
  obtain ⟨-, -, tiled⟩ := free_of_live started run'' run'' fun _ => Iff.rfl
  exact ⟨start, one, other, last, free, counts, tiled rfl, started, run, run', run''⟩

end History

end Allocator

end GpuSched.Buddy
