import GpuSched.Proofs.Buddy.Alike

/-!
# Allocating and freeing at once

An allocation that is freed at once leaves no trace but in the totals of bytes. The blocks are those
from before, since a release joins all halves that the allocation split off and a settled tree is
fixed by what is handed out. In a flat space the free lists are in their old order as well: the
block that was taken stood at the head of its list, and the joins put it back there. They go no
further, because its own buddy was not free.
-/
namespace GpuSched.Buddy

/-- The left half of an aligned tile is aligned. -/
theorem Tile.Aligned.left {position order : Nat} (aligned : Tile.Aligned ⟨position, order + 1⟩) :
    Tile.Aligned ⟨position, order⟩ := by
  have double : twoPow (order + 1) = 2 * twoPow order := twoPow_succ order
  refine Nat.mod_eq_zero_of_dvd (Nat.dvd_trans ?_ (Nat.dvd_of_mod_eq_zero aligned))
  exact Dvd.intro_left 2 double.symm

namespace Shelves

variable {shelves rest : Shelves} {roots : List Tile} {position target levels : Nat} {whole : Tile}

/-- The handles of two blocks can be taken and given back. -/
theorem regain_spend (room : 2 ≤ shelves.room) : shelves.spend.regain = shelves := by
  unfold spend regain
  dsimp only
  rw [Nat.sub_add_cancel room]

/-- Nothing is joined at a root or beside what is not free. -/
theorem join_of_not (levels : Nat) (alone : ¬ (whole ∉ roots ∧ shelves.Has whole.buddy)) :
    shelves.join roots levels whole = shelves := by
  cases levels with
  | zero => rfl
  | succ levels => rw [join, if_neg alone]

/-- Joining upward from the part that was carved off a tile gives the tile back. -/
theorem join_carve (more : Nat) (aligned : Tile.Aligned ⟨position, target + levels⟩)
    (inner : ∀ order < target + levels, (⟨position, order⟩ : Tile) ∉ roots)
    (carved : shelves.carve position target levels position = some rest) :
    (rest.put ⟨position, target⟩).join roots (more + levels) ⟨position, target⟩ =
      (shelves.put ⟨position, target + levels⟩).join roots more ⟨position, target + levels⟩ := by
  -- Of the halves on their shelves the one that `carve` put there first is joined last: the
  -- induction hypothesis joins the others.
  induction levels generalizing shelves more with
  | zero =>
    obtain rfl : shelves = rest := Option.some.inj carved
    rfl
  | succ levels ih =>
    have before : position < position + twoPow (target + levels) :=
      Nat.lt_add_of_pos_right (twoPow_pos _)
    unfold carve at carved
    dsimp only at carved
    rw [if_pos before] at carved
    split at carved
    · cases carved
    rename_i room
    have enough : 2 ≤ shelves.room := Nat.le_of_not_lt room
    obtain ⟨buddy, parent⟩ : Tile.buddy ⟨position, target + levels⟩ =
        ⟨position + twoPow (target + levels), target + levels⟩ ∧
        Tile.parent ⟨position, target + levels⟩ = ⟨position, target + levels + 1⟩ :=
      aligned.of_left
    have goes_up := ih (more + 1) aligned.left
      (fun order less => inner order (Nat.lt_succ_of_lt less)) carved
    rw [Nat.add_right_comm] at goes_up
    rw [← Nat.add_assoc more, goes_up, join, if_pos, take_put, buddy, take_put,
      regain_spend enough, parent]
    · rfl
    · refine ⟨inner _ (Nat.lt_succ_self _), ?_⟩
      rw [buddy]
      unfold Has put
      simp

/-- The first tile on the lists of some orders is at the head of its list. -/
theorem of_search {orders : List Nat}
    (found : shelves.search (fun _ _ => true) orders = some whole) :
    whole.order ∈ orders ∧ ∃ others, shelves.free whole.order = whole.position :: others := by
  obtain ⟨order, mem, first⟩ := List.exists_of_findSome?_eq_some found
  obtain ⟨position, head, rfl⟩ := Option.map_eq_some_iff.mp first
  refine ⟨mem, ?_⟩
  dsimp only
  cases list : shelves.free order with
  | nil =>
    rw [list] at head
    cases head
  | cons held others =>
    rw [list, List.find?_cons_of_pos rfl, Option.some.injEq] at head
    exact ⟨others, by rw [head]⟩

/-- The tile at the head of a list can be taken off and put back. -/
theorem put_take {others : List Nat} (head : shelves.free whole.order = whole.position :: others) :
    (shelves.take whole).put whole = shelves := by
  unfold put take
  dsimp only
  rw [Function.update_self, Function.update_idem, head, List.erase_cons_head, ← head,
    Function.update_eq_self]

/-- A part that was cut off a tile at the head of its list brings the tile back to its place, if the
tile is not joined further. -/
theorem release_cut {space : Space} {others : List Nat}
    (head : shelves.free whole.order = whole.position :: others) (lower : target ≤ whole.order)
    (capped : whole.order ≤ space.maxOrder) (aligned : whole.Aligned)
    (inner : ∀ order < whole.order, (⟨whole.position, order⟩ : Tile) ∉ space.tiles)
    (alone : ¬ (whole ∉ space.tiles ∧ shelves.Has whole.buddy))
    (cut : shelves.cut whole.position target whole = some rest) :
    rest.release space ⟨whole.position, target⟩ = shelves := by
  obtain ⟨levels, level⟩ := Nat.exists_eq_add_of_le lower
  obtain ⟨more, top⟩ := Nat.exists_eq_add_of_le capped
  obtain ⟨position, order⟩ := whole
  dsimp only at level top inner
  subst level
  have climb : space.maxOrder - target = more + levels := by omega
  unfold Shelves.cut at cut
  rw [Nat.add_sub_cancel_left] at cut
  unfold release
  rw [climb, join_carve more aligned inner cut, put_take head, join_of_not more alone]

end Shelves

namespace Allocator

open Operation

section Lists

variable {request : SpaceRequest} {allocator : Allocator} {shelves rest : Shelves}
  {hand : List BlockId} {order len address : Nat}

/-- The tiles on the free list of an order, from its head. -/
def shelf (allocator : Allocator) (order : Nat) : Except Failure (List Tile) := do
  return (← allocator.arena.listed order).map (·.2.tile)

/-- The free list of an order holds the tiles on its shelf. -/
theorem shelf_eq (settled : allocator.Settled hand) (shelved : allocator.arena.Shelved shelves)
    (capped : order ≤ allocator.space.maxOrder) :
    allocator.shelf order = .ok ((shelves.free order).map (⟨·, order⟩)) := by
  have inside : order < allocator.arena.lists.size := by
    rw [settled.housed.lists]
    exact Nat.lt_succ_of_le capped
  obtain ⟨blocks, run, all⟩ := Arena.exists_listed settled.sound inside false
  have tiles : blocks.map (·.2.tile) = (shelves.free order).map (⟨·, order⟩) := by
    rw [← listed_shelved shelved run, List.map_map]
    refine List.map_congr_left fun (id, block) mem => ?_
    obtain ⟨-, level, -⟩ := (all id block).mp mem
    rw [← level]
    rfl
  unfold shelf
  rw [run, ← tiles]
  rfl

/-- A free block is not joined with its buddy, or it would have been before. -/
theorem Settled.not_joinable (settled : allocator.Settled hand)
    (merged : Merged allocator.arena.outline) (shelved : allocator.arena.Shelved shelves)
    {tile : Tile} (has : shelves.Has tile) :
    ¬ (tile ∉ allocator.space.tiles ∧ shelves.Has tile.buddy) := by
  obtain ⟨id, block, found, listed, rfl⟩ := (shelved.has_iff tile).mp has
  rw [joinable_iff settled shelved found]
  rintro ⟨family, buddy, related, beside, also_listed⟩
  exact merged _ _ ⟨block, buddy, family, found, listed, related, rfl, beside, also_listed⟩

/-- Inside a free tile there are no roots of lower orders. -/
theorem Settled.inner_not_root (settled : allocator.Settled [])
    (merged : Merged allocator.arena.outline) (shelved : allocator.arena.Shelved shelves)
    {tile : Tile} (has : shelves.Has tile) {order : Nat} (lower : order < tile.order) :
    (⟨tile.position, order⟩ : Tile) ∉ allocator.space.tiles := by
  obtain ⟨id, block, found, listed, rfl⟩ := (shelved.has_iff tile).mp has
  rw [← settled.roots]
  rintro ⟨top, held, at_top, root, place⟩
  have tidy := settled.tidy merged
  have meets : block.tile.Meets held.tile := by
    rw [place]
    exact ⟨Tile.position_lt_stop ⟨_, order⟩, block.tile.position_lt_stop⟩
  have higher := tidy.le_order_of_root (tidy.isCell found) at_top root meets
  have level : held.order = order := congrArg Tile.order place
  rw [Block.tile_order] at higher lower
  omega

/-- What an ordinary request takes off the shelves comes back to its place when it is given back. -/
theorem Settled.giveBack_allocate (settled : allocator.Settled [])
    (merged : Merged allocator.arena.outline) (shelved : allocator.arena.Shelved shelves)
    (answered : shelves.allocate allocator.space len = .ok (address, rest))
    (ledger : List Holding) :
    rest.giveBack allocator.space (.ordinary address len :: ledger) address = shelves := by
  unfold Shelves.allocate at answered
  split at answered
  · cases answered
  split at answered
  · cases answered
  split at answered
  · cases answered
  rename_i whole searched
  split at answered
  · cases answered
  rename_i left cut
  obtain ⟨rfl, rfl⟩ := Prod.mk.inj (Except.ok.inj answered)
  obtain ⟨mem, others, head⟩ := Shelves.of_search searched
  obtain ⟨lower, capped⟩ := mem_ordersFrom_iff.mp mem
  have has : shelves.Has whole := by
    unfold Shelves.Has
    rw [head]
    exact List.mem_cons_self
  obtain ⟨id, block, found, -, place⟩ := (shelved.has_iff whole).mp has
  have aligned : whole.Aligned := place ▸ settled.forest.aligned found
  unfold Shelves.giveBack
  rw [List.find?_cons_of_pos (by simp [Holding.start])]
  dsimp only [Space.tilesOf, List.foldl_cons, List.foldl_nil]
  rw [Space.position_address]
  exact Shelves.release_cut head lower capped aligned
    (fun _ less => settled.inner_not_root merged shelved has less)
    (settled.not_joinable merged shelved has) cut

end Lists

section Records

variable {request : SpaceRequest} {allocator before middle after : Allocator}
  {ledger : List Holding} {id : BlockId} {block : Block}

/-- An ordinary request that is granted adds blocks to the tree and one record. -/
theorem grows_allocate (settled : allocator.Settled []) (merged : Merged allocator.arena.outline)
    (len : Nat) (wanted : PageClass) :
    (allocate len wanted).Yields allocator
      (fun address after => allocator.Grows after ∧
        (∃ id, after.ordinary = allocator.ordinary.insert address id) ∧
        after.fixed = allocator.fixed)
      (fun _ _ => True) := by
  refine yields_allocate_of_handOut settled merged len wanted (fun _ => trivial)
    (fun _ _ => trivial) fun drawn listed deep _ => ?_
  refine ((settles_handOut settled merged drawn listed deep).and
    (grows_handOut settled merged drawn listed deep)).mono ?_ fun _ _ _ => trivial
  rintro part third ⟨⟨-, books, -⟩, grows⟩ address requested reserved
  refine ⟨grows, ⟨part, ?_⟩, books.fixed⟩
  rw [books.ordinary]

/-- A release of an ordinary allocation strikes one record. -/
theorem strikes_free (settled : allocator.Settled []) (merged : Merged allocator.arena.outline)
    {address : Nat} (found : allocator.ordinary.find? address = some id)
    (handed : HandedOut allocator.arena.outline id block) :
    (free address).Yields allocator
      (fun _ after => after.ordinary = allocator.ordinary.erase address ∧
        after.fixed = allocator.fixed)
      (fun _ _ => True) := by
  have unlisted : block.isListed = false := Block.isListed_of_allocated handed.2
  have under : ({ allocator with ordinary := allocator.ordinary.erase address } :
      Allocator).arena.block? id = some block :=
    Arena.block?_of_unlisted_outline handed.1 unlisted
  unfold free
  simp only [yields_bind, yields_get]
  rw [found]
  simp only [yields_bind, yields_set, yields_block_of under]
  refine settles_accountFreed ?_ fun _ _ => trivial
  have struck := settled.withBooks (allocator.ordinary.erase address) allocator.fixed
    allocator.requested allocator.reserved
    (allocator.freed + allocator.space.blockLength block.order)
  exact (settles_release struck merged handed).mono
    (fun _ _ ⟨_, books, _⟩ => ⟨books.ordinary, books.fixed⟩) fun _ _ _ => trivial

/-- What a grant handed out and a release took back, and nothing else, is handed out no more. -/
theorem handed_back {holding : Holding} {asked given bytes : Nat} (tended : before.Tended ledger)
    (kept : middle.Kept request (holding :: ledger)) (kept_after : after.Kept request ledger)
    (grants : before.Grants holding.owner asked given middle)
    (strikes : middle.Strikes holding.owner bytes after) (grows : before.Grows middle)
    (sheds : Sheds middle.arena.outline after.arena.outline) (id : BlockId) (block : Block) :
    HandedOut after.arena.outline id block ↔ HandedOut before.arena.outline id block := by
  constructor
  · intro still
    obtain ⟨unowned, now⟩ := strikes.handed still
    exact (grants.handed now).resolve_left unowned
  · intro handed
    obtain ⟨owner, apart, -, owns⟩ := grants.exists_owner tended kept handed
    obtain ⟨last, at_last, allocated⟩ := kept_after.recorded.allocated (strikes.owns apart owns)
    obtain ⟨held, at_held, same⟩ := grows id block handed.1
    obtain ⟨also_held, also_at, also_same⟩ := sheds id last at_last
    obtain rfl := Option.some.inj (at_held.symm.trans also_at)
    obtain rfl := Block.eq_of_shape (also_same.symm.trans same) (allocated.trans handed.2.symm)
    exact ⟨at_last, allocated⟩

/-- An address that is granted had no ordinary allocation on record. -/
theorem Tended.fresh_of_granted {address len : Nat} (tended : before.Tended ledger)
    (kept : middle.Kept request (.ordinary address len :: ledger)) :
    before.ordinary.find? address = none := by
  by_contra present
  obtain ⟨id, record⟩ := Option.ne_none_iff_exists'.mp present
  obtain ⟨size, mem⟩ := tended.exists_ordinary record
  exact List.rel_of_pairwise_cons kept.distinct mem rfl

/-- Without the range that was granted last callers hold what they held before. -/
theorem Kept.filter_granted {holding : Holding}
    (kept : middle.Kept request (holding :: ledger)) :
    (holding :: ledger).filter (·.start != holding.start) = ledger := by
  rw [List.filter_cons_of_neg (by simp)]
  refine List.filter_eq_self.mpr fun other mem => ?_
  simpa using (List.rel_of_pairwise_cons kept.starts mem).symm

/-- All but the order of the free lists and the totals of bytes, which may have grown, is as
before. -/
structure Undone (before after : Allocator) : Prop where
  ordinary : after.ordinary = before.ordinary
  fixed : after.fixed = before.fixed
  outline : after.arena.outline = before.arena.outline
  requested : before.requested ≤ after.requested
  reserved : before.reserved ≤ after.reserved

/-- A release at once undoes an ordinary request that is granted. -/
theorem Ready.exists_undone (ready : allocator.Ready request ledger) {len address : Nat}
    {wanted : PageClass}
    (granted : Allocator.allocate len wanted allocator = (.ok address, middle)) :
    ∃ after, Allocator.free address middle = (.ok (), after) ∧ after.Ready request ledger ∧
      allocator.Undone after := by
  have settled := ready.tended.settled
  have merged := ready.tended.merged
  have ready_middle := (ready.allocate len wanted).of_ok granted
  have kept_middle := ready_middle.kept
  have tended_middle := ready_middle.tended
  obtain ⟨-, -, -, grants⟩ := (settles_allocate settled merged len wanted).of_ok granted
  obtain ⟨grows, ⟨id, ordinary⟩, fixed⟩ := (grows_allocate settled merged len wanted).of_ok granted
  have found : middle.ordinary.find? address = some id := by
    rw [ordinary, Table.find?_insert, if_pos rfl]
  obtain ⟨block, at_id, allocated, -⟩ := kept_middle.recorded.ordinary found
  obtain ⟨⟨⟩, after, ran, ready_after⟩ := (ready_middle.free address).exists_ok
  have others : (Holding.ordinary address len :: ledger).filter (·.start != address) = ledger :=
    kept_middle.filter_granted
  rw [others] at ready_after
  obtain ⟨ordinary_after, fixed_after⟩ :=
    (strikes_free tended_middle.settled tended_middle.merged found ⟨at_id, allocated⟩).of_ok ran
  obtain ⟨owner, bytes, record, strikes⟩ :=
    ((settles_free tended_middle.settled tended_middle.merged kept_middle.recorded).of_ok
      ran).resolve_right fun ⟨absent, _⟩ => by cases found.symm.trans absent
  obtain ⟨space, sheds⟩ := (sheds_free address).of_ok ran
  refine ⟨after, ran, ready_after, ?_, ?_, ?_, ?_, ?_⟩
  · rw [ordinary_after, ordinary, Table.erase_insert (ready.tended.fresh_of_granted kept_middle)]
  · rw [fixed_after, fixed]
  · cases record with
    | fixed absent _ => cases found.symm.trans absent
    | ordinary _ _ =>
      exact settled.outline_eq merged tended_middle.settled ready_after.tended.settled
        ready_after.tended.merged grants.space (space.trans grants.space) grows
        (Arena.sheds_outline sheds) (handed_back ready.tended kept_middle ready_after.kept grants
          strikes grows (Arena.sheds_outline sheds))
  · rw [strikes.requested, grants.requested]
    exact Nat.le_add_right _ _
  · rw [strikes.reserved, grants.reserved]
    exact Nat.le_add_right _ _

/-- In a flat space allocators are alike after an ordinary request that is undone. -/
theorem Ready.alike_undone (ready : allocator.Ready request ledger)
    (flat : allocator.space.directoryOrder = none) {shelves : Shelves}
    (shelved : allocator.arena.Shelved shelves) {len address : Nat} {wanted : PageClass}
    (granted : Allocator.allocate len wanted allocator = (.ok address, middle))
    (freed : Allocator.free address middle = (.ok (), after))
    (ready_after : after.Ready request ledger) (undone : allocator.Undone after) :
    Alike request ledger shelves allocator after := by
  have settled := ready.tended.settled
  have merged := ready.tended.merged
  obtain ⟨rest, answered, shelved_middle⟩ :=
    (foretold_allocate settled merged flat shelved len wanted).of_ok granted
  have ready_middle := (ready.allocate len wanted).of_ok granted
  have space : middle.space = allocator.space :=
    Except.ok.inj (ready_middle.kept.space.symm.trans ready.kept.space)
  have shelved_after :=
    (foretold_free ready_middle (space ▸ flat) shelved_middle address).of_ok freed
  rw [space, settled.giveBack_allocate merged shelved answered] at shelved_after
  exact ⟨ready, ready_after, flat, shelved, shelved_after, undone.requested, undone.reserved⟩

end Records

section Pairs

variable {request : SpaceRequest} {start allocator middle : Allocator} {ledger : List Holding}
  {calls : List Request} {len address : Nat} {wanted : PageClass}

/-- After a run of calls that return, an allocation that is granted and freed at once leaves the
live allocations, the counts of every order and all blocks with their page sizes as they were. In a
flat space the free lists are in their old order as well. Whatever is called later is then answered
as if the pair had not been, up to a call that is stopped because a total of bytes is too large. -/
theorem free_undoes_allocate (created : create request = .ok start)
    (run : start.carryOut [] calls = some (allocator, ledger))
    (granted : allocate len wanted allocator = (.ok address, middle)) :
    ∃ after, free address middle = (.ok (), after) ∧
      after.ordinary = allocator.ordinary ∧ after.fixed = allocator.fixed ∧
      after.counts = allocator.counts ∧ after.stats.orders = allocator.stats.orders ∧
      (∀ tile pageClass, after.Offers tile pageClass ↔ allocator.Offers tile pageClass) ∧
      after.arena.outline = allocator.arena.outline ∧
      (allocator.space.directoryOrder = none →
        (∀ order ≤ allocator.space.maxOrder, ∃ tiles,
          after.shelf order = .ok tiles ∧ allocator.shelf order = .ok tiles) ∧
        ∀ later, after.answers later = allocator.answers later ∨
          ∃ common, after.answers later = common ++ [.error (.aborted .overflow)] ∧
            common <+: allocator.answers later) := by
  have ready := ready_of_run created run
  have settled := ready.tended.settled
  obtain ⟨after, freed, ready_after, undone⟩ := ready.exists_undone granted
  have settled_after := ready_after.tended.settled
  have space : after.space = allocator.space :=
    Except.ok.inj (ready_after.kept.space.symm.trans ready.kept.space)
  refine ⟨after, freed, undone.ordinary, undone.fixed,
    settled.counts_eq settled_after space undone.outline,
    settled.orders_eq settled_after space undone.outline, fun tile pageClass => ?_, undone.outline,
    fun flat => ?_⟩
  · rw [offers_iff settled_after, offers_iff settled, undone.outline]
  · obtain ⟨shelves, shelved⟩ := Arena.exists_shelved settled.sound
    have alike := ready.alike_undone flat shelved granted freed ready_after undone
    refine ⟨fun order capped => ⟨_, shelf_eq settled_after alike.also_shelved (space ▸ capped),
      shelf_eq settled shelved capped⟩, fun later => alike.answers⟩

/-- In a flat space the first page is taken beside a live range and freed again. -/
theorem free_undoes_allocate_of_flat : ∃ start allocator middle after : Allocator,
    create { name := "heap", base := 0x1000, length := 0x8000, blockSize := 0x1000 } = .ok start ∧
    start.carryOut [] [.allocateFixed 0x3000 0x2000 .any] =
      some (allocator, [.fixed 0x3000 0x2000]) ∧
    allocate 0x800 .any allocator = (.ok 0x1000, middle) ∧
    free 0x1000 middle = (.ok (), after) ∧
    after.ordinary = allocator.ordinary ∧ after.fixed = allocator.fixed ∧
    after.counts = allocator.counts ∧ after.stats.orders = allocator.stats.orders ∧
    (∀ tile pageClass, after.Offers tile pageClass ↔ allocator.Offers tile pageClass) ∧
    after.arena.outline = allocator.arena.outline ∧
    (∀ order ≤ allocator.space.maxOrder, ∃ tiles,
      after.shelf order = .ok tiles ∧ allocator.shelf order = .ok tiles) ∧
    ∀ later, after.answers later = allocator.answers later ∨
      ∃ common, after.answers later = common ++ [.error (.aborted .overflow)] ∧
        common <+: allocator.answers later := by
  have outcome : ((create
      { name := "heap", base := 0x1000, length := 0x8000, blockSize := 0x1000 }).toOption.bind
        fun start => (start.carryOut [] [.allocateFixed 0x3000 0x2000 .any]).map
          fun (allocator, ledger) =>
            (ledger, allocator.space.directoryOrder, (allocate 0x800 .any allocator).1)) =
      some ([.fixed 0x3000 0x2000], none, .ok 0x1000) := by decide +kernel
  obtain ⟨start, created, ran⟩ := Option.bind_eq_some_iff.mp outcome
  obtain ⟨⟨allocator, ledger⟩, run, all⟩ := Option.map_eq_some_iff.mp ran
  simp only [Prod.mk.injEq] at all
  obtain ⟨rfl, flat, answer⟩ := all
  have started := eq_ok_of_toOption created
  have granted : allocate 0x800 .any allocator = (.ok 0x1000, _) := Prod.ext answer rfl
  obtain ⟨after, freed, ordinary, fixed, counts, orders, offers, outline, lists⟩ :=
    free_undoes_allocate started run granted
  exact ⟨start, allocator, _, after, started, run, granted, freed, ordinary, fixed, counts, orders,
    offers, outline, lists flat⟩

/-- Half of all bytes that there are addresses for are granted, freed and asked for again. Without
the pair they would be granted; after it the sum of what was asked for is too large, and the call is
stopped. -/
theorem stopped_after_pair : ∃ start : Allocator,
    create
      { name := "heap", base := 0, length := 0x8000000000000000,
        blockSize := 0x4000000000000000 } = .ok start ∧
    start.carryOut [] [] = some (start, []) ∧ start.space.directoryOrder = none ∧
    start.answers [.allocate 0x8000000000000000 .any] = [.ok 0] ∧
    start.answers [.allocate 0x8000000000000000 .any, .free 0, .allocate 0x8000000000000000 .any] =
      [.ok 0, .ok 0, .error (.aborted .overflow)] := by
  have outcome : ((create
      { name := "heap", base := 0, length := 0x8000000000000000,
        blockSize := 0x4000000000000000 }).toOption.map fun start =>
        (start.space.directoryOrder, start.answers [.allocate 0x8000000000000000 .any],
          start.answers [.allocate 0x8000000000000000 .any, .free 0,
            .allocate 0x8000000000000000 .any])) =
      some (none, [.ok 0], [.ok 0, .ok 0, .error (.aborted .overflow)]) := by decide +kernel
  obtain ⟨start, created, all⟩ := Option.map_eq_some_iff.mp outcome
  simp only [Prod.mk.injEq] at all
  obtain ⟨flat, without, with_pair⟩ := all
  exact ⟨start, eq_ok_of_toOption created, rfl, flat, without, with_pair⟩

end Pairs

end Allocator

end GpuSched.Buddy
