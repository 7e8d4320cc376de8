import GpuSched.Proofs.Buddy.Merging

/-!
# Free lists as shelves of positions

Handles come and go, and two allocators that went different ways know the same block under different
ones. What callers can notice of the free lists is the sequence of positions on each of them, and
how many handles are left. In a flat space, where every free block serves every request, each step
on blocks acts on these alone: this is said here once for each step, up to the joining of halves
when a block comes back.
-/
namespace GpuSched.Buddy

namespace Tile

/-- The other half of the tile of the next order that a tile is a half of. -/
def buddy (tile : Tile) : Tile :=
  if tile.position / twoPow tile.order % 2 = 0 then
    ⟨tile.position + twoPow tile.order, tile.order⟩
  else
    ⟨tile.position - twoPow tile.order, tile.order⟩

/-- The tile of the next order that a tile is a half of. -/
def parent (tile : Tile) : Tile :=
  ⟨tile.position / twoPow (tile.order + 1) * twoPow (tile.order + 1), tile.order + 1⟩

/-- The left half of an aligned tile has the right one for a buddy, and the tile for a parent. -/
theorem Aligned.of_left {position order : Nat} (aligned : Aligned ⟨position, order + 1⟩) :
    buddy ⟨position, order⟩ = ⟨position + twoPow order, order⟩ ∧
      parent ⟨position, order⟩ = ⟨position, order + 1⟩ := by
  unfold Aligned at aligned
  dsimp only at aligned
  obtain ⟨index, rfl⟩ := Nat.dvd_of_mod_eq_zero aligned
  have half : twoPow (order + 1) * index / twoPow order % 2 = 0 := by
    rw [twoPow_succ, Nat.mul_assoc, Nat.mul_left_comm, Nat.mul_div_cancel_left _ (twoPow_pos order)]
    exact Nat.mul_mod_right 2 index
  have whole : twoPow (order + 1) * index / twoPow (order + 1) = index :=
    Nat.mul_div_cancel_left _ (twoPow_pos _)
  unfold buddy parent
  dsimp only
  rw [if_pos half, whole, Nat.mul_comm index]
  exact ⟨rfl, rfl⟩

/-- The right half of an aligned tile has the left one for a buddy, and the tile for a parent. -/
theorem Aligned.of_right {position order : Nat} (aligned : Aligned ⟨position, order + 1⟩) :
    buddy ⟨position + twoPow order, order⟩ = ⟨position, order⟩ ∧
      parent ⟨position + twoPow order, order⟩ = ⟨position, order + 1⟩ := by
  unfold Aligned at aligned
  dsimp only at aligned
  obtain ⟨index, rfl⟩ := Nat.dvd_of_mod_eq_zero aligned
  have positive := twoPow_pos order
  have double : twoPow (order + 1) = 2 * twoPow order := twoPow_succ order
  have half : (twoPow (order + 1) * index + twoPow order) / twoPow order % 2 = 1 := by
    rw [double, Nat.mul_assoc, Nat.mul_left_comm, Nat.add_div_right _ positive,
      Nat.mul_div_cancel_left _ positive]
    omega
  have whole : (twoPow (order + 1) * index + twoPow order) / twoPow (order + 1) = index := by
    rw [Nat.mul_add_div (twoPow_pos _), Nat.div_eq_of_lt (by omega), Nat.add_zero]
  unfold buddy parent
  dsimp only
  rw [if_neg (by omega), whole, Nat.mul_comm index, Nat.add_sub_cancel]
  exact ⟨rfl, rfl⟩

end Tile

/-- Where the halves of a block lie. -/
theorem AreHalves.tiles {id left right : BlockId} {block leftHalf rightHalf : Block} {order : Nat}
    (halves : AreHalves id left right block leftHalf rightHalf order) :
    leftHalf.tile = ⟨block.position, order⟩ ∧
      rightHalf.tile = ⟨block.position + twoPow order, order⟩ := by
  unfold Block.tile
  rw [halves.left_position, halves.left_order, halves.right_position, halves.right_order]
  exact ⟨rfl, rfl⟩

/-- The halves of an aligned block are buddies, and it is their parent. -/
theorem AreHalves.buddies {id left right : BlockId} {block leftHalf rightHalf : Block} {order : Nat}
    (halves : AreHalves id left right block leftHalf rightHalf order)
    (aligned : block.tile.Aligned) :
    leftHalf.tile.buddy = rightHalf.tile ∧ rightHalf.tile.buddy = leftHalf.tile ∧
      leftHalf.tile.parent = block.tile ∧ rightHalf.tile.parent = block.tile := by
  have whole : block.tile = ⟨block.position, order + 1⟩ := by
    unfold Block.tile
    rw [halves.above]
  rw [whole] at aligned ⊢
  rw [halves.tiles.1, halves.tiles.2]
  obtain ⟨left_buddy, left_parent⟩ := aligned.of_left
  obtain ⟨right_buddy, right_parent⟩ := aligned.of_right
  exact ⟨left_buddy, right_buddy, left_parent, right_parent⟩

/-- The positions on the free list of each order, from its head, and the number of blocks that
there are handles left for. -/
structure Shelves where
  free : Nat → List Nat
  room : Nat

namespace Shelves

/-- Put a tile at the head of its list. -/
def put (shelves : Shelves) (tile : Tile) : Shelves :=
  { shelves with
    free := Function.update shelves.free tile.order (tile.position :: shelves.free tile.order) }

/-- Take a tile off its list. -/
def take (shelves : Shelves) (tile : Tile) : Shelves :=
  { shelves with
    free := Function.update shelves.free tile.order
      ((shelves.free tile.order).erase tile.position) }

/-- Whether a tile is on its list. -/
def Has (shelves : Shelves) (tile : Tile) : Prop := tile.position ∈ shelves.free tile.order

instance (shelves : Shelves) (tile : Tile) : Decidable (shelves.Has tile) :=
  inferInstanceAs (Decidable (_ ∈ _))

/-- Take the handles of two blocks, or give them back. -/
def spend (shelves : Shelves) : Shelves := { shelves with room := shelves.room - 2 }

@[inherit_doc spend]
def regain (shelves : Shelves) : Shelves := { shelves with room := shelves.room + 2 }

/-- Join free halves upward from a tile, over some roots. After `levels` joins there is nothing to
join. -/
def join (roots : List Tile) : (levels : Nat) → Tile → Shelves → Shelves
  | 0, _, shelves => shelves
  | levels + 1, tile, shelves =>
      if tile ∉ roots ∧ shelves.Has tile.buddy then
        join roots levels tile.parent
          (((shelves.take tile).take tile.buddy).regain.put tile.parent)
      else
        shelves

/-- Give a tile of a space back. -/
def release (space : Space) (tile : Tile) (shelves : Shelves) : Shelves :=
  (shelves.put tile).join space.tiles (space.maxOrder - tile.order) tile

/-- Taking off what was put on last changes nothing. -/
theorem take_put (shelves : Shelves) (tile : Tile) : (shelves.put tile).take tile = shelves := by
  unfold take put
  simp

end Shelves

namespace Arena

section Shelving

variable {arena changed : Arena} {shelves : Shelves} {id : BlockId} {block : Block}

/-- The number of blocks that there are handles left for. -/
def room (arena : Arena) : Nat := arena.vacant.length + (capacity - arena.nodes.size)

/-- The position of the block under a handle. -/
def positionOf (arena : Arena) (id : BlockId) : Nat :=
  ((arena.outline id).map (·.position)).getD 0

/-- The free lists of an arena hold the positions on some shelves, and it has as many handles
left. -/
def Shelved (arena : Arena) (shelves : Shelves) : Prop :=
  (∃ queue, arena.Queued queue ∧
    ∀ order, (queue order).map arena.positionOf = shelves.free order) ∧ arena.room = shelves.room

/-- The free lists of a sound arena hold some positions. -/
theorem exists_shelved (sound : arena.Sound) : ∃ shelves, arena.Shelved shelves := by
  obtain ⟨queue, queued⟩ := sound.queued
  exact ⟨⟨fun order => (queue order).map arena.positionOf, arena.room⟩,
    ⟨queue, queued, fun _ => rfl⟩, rfl⟩

/-- A step that leaves the handles leaves their number. -/
theorem SameRoom.room_eq (same : arena.SameRoom changed) : changed.room = arena.room := by
  unfold room
  rw [same.vacant, same.size]

/-- The position of a block that is there. -/
theorem positionOf_eq (found : arena.outline id = some block) :
    arena.positionOf id = block.position := by
  unfold positionOf
  rw [found]
  rfl

/-- A step on one block that leaves its position leaves all positions. -/
theorem positionOf_update {held : Block} (found : arena.outline id = some block)
    (outline : changed.outline = Function.update arena.outline id (some held))
    (place : held.position = block.position) : changed.positionOf = arena.positionOf := by
  funext other
  unfold positionOf
  rw [outline]
  by_cases same : other = id
  · rw [same, Function.update_self, found, Option.map_some, Option.map_some, place]
  · rw [Function.update_of_ne same]

/-- What is on the shelves are the free blocks. -/
theorem Shelved.has_iff (shelved : arena.Shelved shelves) (tile : Tile) :
    shelves.Has tile ↔ ∃ id block, arena.outline id = some block ∧ block.isListed = true ∧
      block.tile = tile := by
  obtain ⟨⟨queue, queued, free⟩, -⟩ := shelved
  unfold Shelves.Has
  rw [← free, List.mem_map]
  constructor
  · rintro ⟨id, mem, place⟩
    obtain ⟨block, found, order, listed⟩ := queued.of_mem mem
    have drawn := outline_of_block? found
    refine ⟨id, block.outline, drawn, by rwa [Block.isListed_outline], ?_⟩
    unfold Block.tile
    rw [← positionOf_eq drawn, place, Block.outline_order, order]
  · rintro ⟨id, drawn, found, listed, rfl⟩
    obtain ⟨block, under, rfl⟩ := block?_of_outline found
    rw [Block.isListed_outline] at listed
    refine ⟨id, ?_, positionOf_eq found⟩
    rw [Block.tile_order, Block.outline_order]
    exact queued.complete id block under listed

/-- A block listed at the head is put on its shelf. -/
theorem Shelved.pushFront (shelved : arena.Shelved shelves) (run : arena.pushFront id = .ok changed)
    (same : arena.SameRoom changed) {state : BlockState} (found : arena.outline id = some block)
    (outline : changed.outline = Function.update arena.outline id (some { block with state })) :
    changed.Shelved (shelves.put block.tile) := by
  obtain ⟨⟨queue, queued, free⟩, room⟩ := shelved
  obtain ⟨held, under, after⟩ := queued_pushFront queued run
  obtain rfl : held.outline = block :=
    Option.some.inj ((outline_of_block? under).symm.trans found)
  refine ⟨⟨_, after, fun order => ?_⟩, same.room_eq.trans room⟩
  rw [positionOf_update found outline rfl]
  unfold Shelves.put
  dsimp only
  rw [Block.tile_order, Block.outline_order]
  by_cases here : order = held.order
  · rw [here, Function.update_self, Function.update_self, List.map_cons, free, positionOf_eq found]
    rfl
  · rw [Function.update_of_ne here, Function.update_of_ne here, free]

/-- A block that is taken off its list is taken off its shelf. -/
theorem Shelved.unlink (shelved : arena.Shelved shelves) (run : arena.unlink id = .ok changed)
    (same : arena.SameRoom changed) {state : BlockState} (found : arena.outline id = some block)
    (outline : changed.outline = Function.update arena.outline id (some { block with state }))
    (alone : ∀ {other held}, arena.outline other = some held → held.tile = block.tile →
      other = id) : changed.Shelved (shelves.take block.tile) := by
  obtain ⟨⟨queue, queued, free⟩, room⟩ := shelved
  obtain ⟨held, before, behind, under, parts, after⟩ := queued_unlink queued run
  obtain rfl : held.outline = block :=
    Option.some.inj ((outline_of_block? under).symm.trans found)
  refine ⟨⟨_, after, fun order => ?_⟩, same.room_eq.trans room⟩
  rw [positionOf_update found outline rfl]
  unfold Shelves.take
  dsimp only
  rw [Block.tile_order, Block.outline_order]
  by_cases here : order = held.order
  · rw [here, Function.update_self, Function.update_self, ← free, parts, List.map_append,
      List.map_append, List.map_cons, positionOf_eq found, Block.tile_position,
      List.erase_append_right, List.erase_cons_head]
    intro mem
    obtain ⟨other, earlier, place⟩ := List.mem_map.mp mem
    have listed : other ∈ queue held.order := by
      rw [parts]
      exact List.mem_append_left _ earlier
    obtain ⟨block, present, level, -⟩ := queued.of_mem listed
    have drawn := outline_of_block? present
    rw [positionOf_eq drawn] at place
    have there : block.outline.tile = held.outline.tile := by
      unfold Block.tile
      rw [place, Block.outline_order, Block.outline_order, level]
    obtain rfl := alone drawn there
    have nodup := queued.nodup held.order
    rw [parts] at nodup
    exact (not_mem_of_nodup nodup).1 earlier
  · rw [Function.update_of_ne here, Function.update_of_ne here, free]

/-- Another block under a handle that is on no list before and after leaves the shelves. -/
theorem Shelved.of_unlisted (shelved : arena.Shelved shelves) (id : BlockId)
    (lists : changed.lists = arena.lists)
    (before : ∀ block, arena.block? id = some block → block.isListed = false)
    (after : ∀ block, changed.block? id = some block → block.isListed = false)
    (kept : ∀ other, other ≠ id → changed.block? other = arena.block? other) :
    changed.Shelved { shelves with room := changed.room } := by
  obtain ⟨⟨queue, queued, free⟩, -⟩ := shelved
  refine ⟨⟨queue, queued.of_unlisted id lists before after kept, fun order => ?_⟩, rfl⟩
  rw [← free order]
  refine List.map_congr_left fun other mem => ?_
  obtain ⟨block, found, -, listed⟩ := queued.of_mem mem
  have apart : other ≠ id := by
    rintro rfl
    rw [before block found] at listed
    cases listed
  unfold positionOf outline
  rw [kept other apart]

/-- A change of an unlisted block leaves the shelves. -/
theorem Shelved.update (shelved : arena.Shelved shelves) {change : Block → Block}
    (found : arena.block? id = some block) (unlisted : block.isListed = false)
    (still : (change block).isListed = false) (run : arena.update id change = .ok changed) :
    changed.Shelved shelves := by
  have same := (sameRoom_update run).room_eq.trans shelved.2
  obtain ⟨held, under, rfl⟩ := update_eq_ok_iff.mp run
  obtain rfl : block = held := Option.some.inj (found.symm.trans under)
  have blocks : ∀ other, (arena.put id (change block)).block? other =
      if other = id then some (change block) else arena.block? other :=
    fun _ => block?_put (lt_size_of_block? under)
  have kept : (arena.put id (change block)).Shelved
      { shelves with room := (arena.put id (change block)).room } := shelved.of_unlisted id rfl
    (fun held present => Option.some.inj (found.symm.trans present) ▸ unlisted)
    (fun held present => by
      rw [blocks, if_pos rfl, Option.some.injEq] at present
      exact present ▸ still)
    (fun other apart => by rw [blocks, if_neg apart])
  rwa [same] at kept

/-- A new unlisted block takes a handle. -/
theorem Shelved.insert (shelved : arena.Shelved shelves) (sound : arena.Sound)
    (unlisted : block.isListed = false) (run : arena.insert block = .ok (id, changed)) :
    0 < shelves.room ∧ changed.Shelved { shelves with room := shelves.room - 1 } := by
  obtain ⟨fresh, lists, blocks, -⟩ := block?_insert sound run
  have room : arena.room = changed.room + 1 := by
    unfold Arena.room
    unfold Arena.insert at run
    split at run
    · rename_i vacant
      obtain ⟨-, rfl⟩ := Prod.mk.inj (Except.ok.inj run)
      rw [vacant, put_size, List.length_cons]
      dsimp only
      omega
    · rename_i vacant
      split at run
      · obtain ⟨-, rfl⟩ := Prod.mk.inj (Except.ok.inj run)
        rw [Array.size_push]
        dsimp only
        omega
      · cases run
  have after : changed.Shelved { shelves with room := changed.room } := shelved.of_unlisted id lists
    (fun held present => by rw [fresh] at present; cases present)
    (fun held present => by
      rw [blocks, if_pos rfl, Option.some.injEq] at present
      exact present ▸ unlisted)
    (fun other apart => by rw [blocks, if_neg apart])
  rw [shelved.2] at room
  have rest : changed.room = shelves.room - 1 := by omega
  rw [rest] at after
  exact ⟨by omega, after⟩

/-- No new block gets a handle when none is left. -/
theorem Shelved.room_eq_zero (shelved : arena.Shelved shelves) {failure : Failure}
    (run : arena.insert block = .error failure) : shelves.room = 0 := by
  rw [← shelved.2]
  unfold Arena.insert at run
  split at run
  · cases run
  · rename_i vacant
    split at run
    · cases run
    · unfold Arena.room
      rw [vacant, List.length_nil]
      omega

/-- A block that is given back gives its handle back. -/
theorem Shelved.remove (shelved : arena.Shelved shelves)
    (run : arena.remove id = .ok (block, changed)) :
    changed.Shelved { shelves with room := shelves.room + 1 } := by
  obtain ⟨found, unlisted, lists, vacant, size, blocks⟩ := block?_remove run
  have inside := lt_size_of_block? found
  have room : changed.room = arena.room + 1 := by
    unfold Arena.room
    rw [vacant, size, List.length_cons]
    omega
  have after : changed.Shelved { shelves with room := changed.room } := shelved.of_unlisted id lists
    (fun held present => Option.some.inj (found.symm.trans present) ▸ unlisted)
    (fun held present => by rw [blocks, if_pos rfl] at present; cases present)
    (fun other apart => by rw [blocks, if_neg apart])
  rwa [room, shelved.2] at after

end Shelving

end Arena

namespace Allocator

open Operation

section Steps

variable {allocator : Allocator} {shelves : Shelves} {id : BlockId} {block : Block}
  {hand : List BlockId}

/-- In a flat space a loose block is put on its shelf. -/
theorem shelves_list (settled : allocator.Settled (id :: hand))
    (flat : allocator.space.directoryOrder = none) (shelved : allocator.arena.Shelved shelves)
    (found : allocator.arena.outline id = some block) (loose : block.state = .loose) :
    (list id).Yields allocator (fun _ after => after.arena.Shelved (shelves.put block.tile))
      (fun _ _ => False) := by
  have unlisted : block.isListed = false := Block.isListed_of_loose loose
  have at_id := Arena.block?_of_unlisted_outline found unlisted
  have head : allocator.space.fromTail block.pageClass = false := by
    unfold Space.fromTail
    rw [flat]
    rfl
  obtain ⟨arena, run, -, room, outline⟩ :=
    Arena.answers_pushFront settled.sound found loose (settled.has_list found)
  unfold list
  simp only [yields_bind, yields_get, yields_block_of at_id]
  rw [head, if_neg Bool.false_ne_true]
  exact (yields_changeArena_of run).mpr (shelved.pushFront run room found outline)

/-- A free block that is taken off its list is taken off its shelf. -/
theorem shelves_unlink (settled : allocator.Settled hand)
    (shelved : allocator.arena.Shelved shelves) (found : allocator.arena.outline id = some block)
    (listed : block.isListed = true) :
    (changeArena (·.unlink id)).Yields allocator
      (fun _ after => after.arena.Shelved (shelves.take block.tile)) (fun _ _ => False) := by
  obtain ⟨arena, run, -, room, outline⟩ :=
    Arena.answers_unlink settled.sound found listed (settled.has_list found)
  refine (yields_changeArena_of run).mpr (shelved.unlink run room found outline ?_)
  exact fun under place => settled.forest.eq_of_tile under found place

/-- Handing out a loose block leaves the shelves. -/
theorem shelves_markAllocated (settled : allocator.Settled hand)
    (shelved : allocator.arena.Shelved shelves) (found : allocator.arena.outline id = some block)
    (loose : block.state = .loose) :
    (markAllocated id).Yields allocator (fun _ after => after.arena.Shelved shelves)
      (fun _ _ => False) := by
  have unlisted : block.isListed = false := Block.isListed_of_loose loose
  have at_id := Arena.block?_of_unlisted_outline found unlisted
  obtain ⟨count, present⟩ := settled.has_count found
  obtain ⟨arena, run, -⟩ := Arena.answers_update settled.sound found unlisted
    ({ · with state := .allocated }) rfl
  unfold markAllocated
  simp only [yields_bind, yields_block_of at_id]
  rw [if_neg (not_not.mpr loose)]
  simp only [yields_bind]
  refine (yields_changeArena_of run).mpr ?_
  exact yields_changeCount_of present rfl (shelved.update at_id unlisted rfl run)

/-- The halves of a block take two handles. -/
theorem shelved_of_divides {arena first second third fourth : Arena} {left right : BlockId}
    {order : Nat} {pageClass : PageClass} (shelved : arena.Shelved shelves) (sound : arena.Sound)
    (found : arena.outline id = some block) (unlisted : block.isListed = false)
    (divides : Divides arena id block order pageClass left right first second third fourth) :
    2 ≤ shelves.room ∧ fourth.Shelved shelves.spend := by
  obtain ⟨-, -, -, -, -, sound_first, -, -, at_left, at_id, -⟩ :=
    divides.blocks sound found unlisted
  obtain ⟨some_left, shelved_first⟩ := shelved.insert sound rfl divides.insert_left
  obtain ⟨one_left, shelved_second⟩ := shelved_first.insert sound_first rfl divides.insert_right
  have shelved_third := shelved_second.update at_left rfl rfl divides.relate
  have shelved_fourth := shelved_third.update at_id unlisted rfl divides.divide
  dsimp only at one_left
  exact ⟨by omega, shelved_fourth⟩

/-- Too few handles are left where one of the halves gets none. -/
theorem room_lt_of_noHalf {arena : Arena} {order : Nat} {pageClass : PageClass}
    (shelved : arena.Shelved shelves) (sound : arena.Sound)
    (full : NoHalf arena block order pageClass id) : shelves.room < 2 := by
  rcases full with full | ⟨left, first, insert_left, full⟩
  · rw [shelved.room_eq_zero full]
    exact Nat.two_pos
  · obtain ⟨-, shelved_first⟩ := shelved.insert sound rfl insert_left
    have none_left := shelved_first.room_eq_zero full
    dsimp only at none_left
    omega

/-- In a flat space a split takes two handles and puts the right half on its shelf. -/
theorem shelves_split (settled : allocator.Settled (id :: hand))
    (flat : allocator.space.directoryOrder = none) (shelved : allocator.arena.Shelved shelves)
    (found : allocator.arena.outline id = some block) (loose : block.state = .loose) {order : Nat}
    (above : block.order = order + 1) (pageClass : PageClass) :
    (split id pageClass).Yields allocator
      (fun _ after => 2 ≤ shelves.room ∧
        after.arena.Shelved (shelves.spend.put ⟨block.position + twoPow order, order⟩))
      (fun _ _ => shelves.room < 2) := by
  have unlisted : block.isListed = false := Block.isListed_of_loose loose
  have at_id := Arena.block?_of_unlisted_outline found unlisted
  obtain ⟨count, present⟩ := settled.has_count found
  rcases settled.divides_or_full found loose above (halfClass allocator.space order pageClass)
      present with
    ⟨left, right, _, _, _, fourth, leftHalf, rightHalf, divides, halved, -, right_loose, -, -,
      outline, divided⟩ | ⟨full, -⟩
  on_goal 2 =>
    exact yields_split_full at_id loose above full fun _ =>
      room_lt_of_noHalf shelved settled.sound full
  have at_right : fourth.outline right = some rightHalf := by
    rw [outline, withHalves_right halved.apart.2]
  obtain ⟨room, shelved_fourth⟩ := shelved_of_divides shelved settled.sound found unlisted divides
  refine yields_split_of at_id loose above present divides ?_
  refine (shelves_list divided flat shelved_fourth at_right right_loose).mono
    (fun _ after shown => ?_) fun _ _ => False.elim
  rw [halved.halves.tiles.2] at shown
  exact ⟨room, shown⟩

/-- The buddy and the parent of a half lie where the neighbours of its tile do. -/
theorem Settled.neighbours (settled : allocator.Settled hand) {family : Family}
    (found : allocator.arena.outline id = some block) (related : block.family = some family) :
    ∃ parent buddy, allocator.arena.outline family.parent = some parent ∧
      allocator.arena.outline family.buddy = some buddy ∧ buddy.tile = block.tile.buddy ∧
      parent.tile = block.tile.parent := by
  obtain ⟨parent, buddy, order, above, -, beside, halves | halves⟩ :=
    settled.forest.exists_family found related
  · obtain ⟨other, -, whole, -⟩ := halves.buddies (settled.forest.aligned above)
    exact ⟨parent, buddy, above, beside, other.symm, whole.symm⟩
  · obtain ⟨-, other, -, whole⟩ := halves.buddies (settled.forest.aligned above)
    exact ⟨parent, buddy, above, beside, other.symm, whole.symm⟩

/-- A free half and its free buddy are taken off their shelves, and their parent is put on its
own. -/
theorem shelves_joinHalves (settled : allocator.Settled hand)
    (flat : allocator.space.directoryOrder = none) (shelved : allocator.arena.Shelved shelves)
    {buddy : Block} {family : Family} (found : allocator.arena.outline id = some block)
    (listed : block.isListed = true) (related : block.family = some family)
    (at_buddy : allocator.arena.outline family.buddy = some buddy)
    (buddy_listed : buddy.isListed = true) :
    (joinHalves id family).Yields allocator
      (fun _ after => after.arena.Shelved
          (((shelves.take block.tile).take block.tile.buddy).regain.put block.tile.parent) ∧
        ∃ parent, after.arena.outline family.parent = some parent ∧
          parent.tile = block.tile.parent)
      (fun _ _ => True) := by
  have distinct : id ≠ family.buddy := (settled.forest.buddy_ne found related).symm
  obtain ⟨above, beside, at_above, at_beside, place, whole⟩ := settled.neighbours found related
  obtain rfl : buddy = beside := Option.some.inj (at_buddy.symm.trans at_beside)
  rw [joinHalves_eq]
  simp only [yields_bind]
  refine ((settles_unlink settled found listed).and
    (shelves_unlink settled shelved found listed)).mono
    (fun _ first ⟨⟨settled_first, books_first, shown_first⟩, shelved_first⟩ => ?_)
    fun _ _ failed => failed.1.elim
  have still : first.arena.outline family.buddy = some buddy := by
    rw [shown_first, Function.update_of_ne distinct.symm, at_buddy]
  refine ((settles_unlink settled_first still buddy_listed).and
    (shelves_unlink settled_first shelved_first still buddy_listed)).mono
    (fun _ second ⟨⟨settled_second, books_second, shown_second⟩, shelved_second⟩ => ?_)
    fun _ _ failed => failed.1.elim
  rw [shown_first] at shown_second
  rw [place] at shelved_second
  obtain ⟨parent, -, joined⟩ := joined_of_unlinked settled.forest found related at_buddy listed
    buddy_listed shown_second
  obtain ⟨_, _, fifth, counts, remove_half, remove_buddy, at_parent, free_parent, outline,
    settled_fifth, merges⟩ := settled_second.exists_merged joined
  have at_loose : fifth.outline family.parent = some { parent with state := .loose } := by
    rw [outline]
    exact withoutHalves_eq_some_iff.mpr (.inl ⟨rfl, rfl⟩)
  have shelved_fifth : fifth.Shelved ((shelves.take block.tile).take block.tile.buddy).regain :=
    ((shelved_second.remove remove_half).remove remove_buddy).update at_parent
      (Block.isListed_of_not_leaf joined.no_leaf) rfl free_parent
  have flat_second : second.space.directoryOrder = none := by
    rw [(books_first.trans books_second).space, flat]
  obtain ⟨held, _, at_held, -, -, higher⟩ :=
    settled_second.neighbours joined.at_half joined.related
  obtain rfl : parent = held := Option.some.inj (joined.at_parent.symm.trans at_held)
  have same : ({ parent with state := .loose } : Block).tile = block.tile.parent := higher
  refine merges _ _ (((settles_list settled_fifth at_loose rfl).and (shelves_list settled_fifth
    flat_second shelved_fifth at_loose rfl)).mono
      (fun _ after ⟨⟨_, _, shown⟩, shelved_after⟩ => ?_) fun _ _ _ => trivial)
  rw [same] at shelved_after
  refine ⟨shelved_after, { parent with state := .listed none none }, ?_, same⟩
  rw [shown]
  exact Function.update_self ..

/-- A free half and its buddy are both free just when its tile is no root and the tile of the buddy
is on its shelf. -/
theorem joinable_iff (settled : allocator.Settled hand)
    (shelved : allocator.arena.Shelved shelves) (found : allocator.arena.outline id = some block) :
    block.tile ∉ allocator.space.tiles ∧ shelves.Has block.tile.buddy ↔
      ∃ family buddy, block.family = some family ∧
        allocator.arena.outline family.buddy = some buddy ∧ buddy.isListed = true := by
  rw [← settled.roots, shelved.has_iff]
  constructor
  · rintro ⟨no_root, other, held, at_other, listed, place⟩
    cases related : block.family with
    | none => exact absurd ⟨id, block, found, by simp [Block.isRoot, related], rfl⟩ no_root
    | some family =>
      obtain ⟨parent, buddy, -, beside, same, -⟩ := settled.neighbours found related
      obtain rfl := settled.forest.eq_of_tile at_other beside (place.trans same.symm)
      exact ⟨family, held, rfl, at_other, listed⟩
  · rintro ⟨family, buddy, related, beside, listed⟩
    refine ⟨?_, ?_⟩
    · rintro ⟨other, held, at_other, root, place⟩
      obtain rfl := settled.forest.eq_of_tile at_other found place
      obtain rfl : block = held := Option.some.inj (found.symm.trans at_other)
      unfold Block.isRoot at root
      rw [related] at root
      cases root
    · obtain ⟨parent, held, -, at_held, same, -⟩ := settled.neighbours found related
      obtain rfl : buddy = held := Option.some.inj (beside.symm.trans at_held)
      exact ⟨family.buddy, buddy, beside, listed, same⟩

/-- A free half is joined just when its buddy is free. -/
theorem joinable_iff_of_family (settled : allocator.Settled hand)
    (shelved : allocator.arena.Shelved shelves) {family : Family} {buddy : Block}
    (found : allocator.arena.outline id = some block) (related : block.family = some family)
    (at_buddy : allocator.arena.outline family.buddy = some buddy) :
    block.tile ∉ allocator.space.tiles ∧ shelves.Has block.tile.buddy ↔ buddy.isListed = true := by
  rw [joinable_iff settled shelved found]
  constructor
  · rintro ⟨other, held, relation, under, listed⟩
    obtain rfl : family = other := Option.some.inj (related.symm.trans relation)
    obtain rfl : buddy = held := Option.some.inj (at_buddy.symm.trans under)
    exact listed
  · exact fun listed => ⟨family, buddy, related, at_buddy, listed⟩

/-- Joining upward joins the tiles on the shelves. -/
theorem shelves_coalesce (levels : Nat) (settled : allocator.Settled hand)
    (flat : allocator.space.directoryOrder = none) (shelved : allocator.arena.Shelved shelves)
    (merged : MergedBut id allocator.arena.outline)
    (found : allocator.arena.outline id = some block) (listed : block.isListed = true) :
    (coalesce levels id).Yields allocator
      (fun _ after => after.arena.Shelved (shelves.join allocator.space.tiles levels block.tile))
      (fun _ _ => True) := by
  induction levels generalizing allocator shelves id block with
  | zero =>
    obtain ⟨half, at_id, rfl⟩ := Arena.block?_of_outline found
    unfold coalesce Shelves.join
    rw [yields_bind, yields_block_of at_id]
    split
    · rw [yields_bind]
      refine yields_block (fun buddy _ => ?_) fun _ _ => trivial
      split
      · trivial
      · exact shelved
    · exact shelved
  | succ levels ih =>
    obtain ⟨half, at_id, rfl⟩ := Arena.block?_of_outline found
    unfold coalesce Shelves.join
    rw [yields_bind, yields_block_of at_id]
    split
    · rename_i family related
      have drawn_related : half.outline.family = some family := by rwa [Block.outline_family]
      obtain ⟨drawn_buddy, at_drawn, -⟩ := settled.forest.exists_buddy found drawn_related
      obtain ⟨buddy, at_buddy, rfl⟩ := Arena.block?_of_outline at_drawn
      rw [yields_bind, yields_block_of at_buddy]
      rw [Block.isListed_outline] at listed
      rw [listed, Bool.true_and]
      have joinable := joinable_iff_of_family settled shelved found drawn_related at_drawn
      rw [Block.isListed_outline buddy] at joinable
      split
      · rename_i buddy_listed
        rw [if_pos (joinable.mpr buddy_listed)]
        rw [← Block.isListed_outline] at listed buddy_listed
        suffices goes_on : (do joinHalves id family; coalesce levels family.parent).Yields allocator
            (fun _ after => after.arena.Shelved (Shelves.join allocator.space.tiles levels
              half.outline.tile.parent (((shelves.take half.outline.tile).take
                half.outline.tile.buddy).regain.put half.outline.tile.parent)))
            (fun _ _ => True) by
          simpa only [joinHalves, yields_bind] using goes_on
        rw [yields_bind]
        refine ((settles_joinHalves settled merged found listed drawn_related at_drawn
          buddy_listed).and (shelves_joinHalves settled flat shelved found listed drawn_related
            at_drawn buddy_listed)).mono ?_ fun _ _ _ => trivial
        rintro _ after ⟨⟨settled_after, books, merged_after, ⟨parent, at_parent, parent_listed, -⟩,
          -⟩, shelved_after, held, at_held, place⟩
        obtain rfl : parent = held := Option.some.inj (at_parent.symm.trans at_held)
        rw [← place] at shelved_after ⊢
        rw [← books.space]
        exact ih settled_after (books.space ▸ flat) shelved_after merged_after at_parent
          parent_listed
      · rename_i not_listed
        rw [if_neg (mt joinable.mp not_listed)]
        exact shelved
    · rename_i unrelated
      rw [if_neg]
      · exact shelved
      · rw [joinable_iff settled shelved found]
        rintro ⟨family, _, related, -⟩
        rw [Block.outline_family] at related
        exact unrelated family related

/-- In a flat space a block that comes back is put on its shelf and joined upward. -/
theorem shelves_release (settled : allocator.Settled hand)
    (flat : allocator.space.directoryOrder = none) (shelved : allocator.arena.Shelved shelves)
    (merged : Merged allocator.arena.outline)
    (handed : HandedOut allocator.arena.outline id block) :
    (release id).Yields allocator
      (fun _ after => after.arena.Shelved (shelves.release allocator.space block.tile))
      (fun _ _ => True) := by
  obtain ⟨found, allocated⟩ := handed
  have unlisted : block.isListed = false := Block.isListed_of_allocated allocated
  have at_id := Arena.block?_of_unlisted_outline found unlisted
  obtain ⟨arena, counts, run, outline, settled_loose, comes_down⟩ :=
    settled.exists_loose ⟨found, allocated⟩
  have shelved_loose : arena.Shelved shelves := shelved.update at_id unlisted rfl run
  have at_loose : arena.outline id = some { block with state := .loose } := by
    rw [outline, Function.update_self]
  refine comes_down _ _ ?_
  simp only [yields_bind, yields_get]
  refine ((settles_list settled_loose at_loose rfl).and
    (shelves_list settled_loose flat shelved_loose at_loose rfl)).mono
    (fun _ second ⟨⟨settled_second, books, shown⟩, shelved_second⟩ => ?_) fun _ _ _ => trivial
  have space : second.space = allocator.space := books.space
  dsimp only at shown
  have merged_second : MergedBut id second.arena.outline := by
    intro one other pair
    rw [shown] at pair
    exact pair.of_list (merged.relabel rfl outline)
  have at_listed : second.arena.outline id = some { block with state := .listed none none } := by
    rw [shown, Function.update_self]
  rw [space]
  have joins := shelves_coalesce (allocator.space.maxOrder - block.order) settled_second
    (space ▸ flat) shelved_second merged_second at_listed rfl
  rwa [space] at joins

end Steps

end Allocator

end GpuSched.Buddy
