import GpuSched.Buddy.Arena
import GpuSched.Buddy.Space
import GpuSched.Operation
import GpuSched.Table

/-!
# Buddy allocator

An allocator hands out ranges of a space. An ordinary allocation is one block. A fixed one lies
where the caller wants it and is put together from the blocks of its tiling. A block that is too
large is split into halves until it fits; two free halves become one block again.
-/
namespace GpuSched.Buddy

/-- How many blocks of an order are handed out and how many are split. -/
structure OrderCount where
  allocated : Nat := 0
  split : Nat := 0
  deriving DecidableEq, Repr, Inhabited

/-- A range that a caller has placed. -/
structure FixedRange where
  len : Nat
  /-- The blocks that cover the range, from left to right. -/
  tiles : List BlockId
  deriving DecidableEq, Repr

/-- The state of an allocator. -/
structure Allocator where
  space : Space
  arena : Arena
  /-- The block of each ordinary allocation, by its address. -/
  ordinary : Table BlockId := .empty
  /-- The fixed allocations, by their addresses. -/
  fixed : Table FixedRange := .empty
  /-- The counts of each order. -/
  counts : Array OrderCount
  /-- The bytes that callers asked for, over all allocations so far. -/
  requested : Nat := 0
  /-- The bytes that were handed out, over all allocations so far. -/
  reserved : Nat := 0
  /-- The bytes that came back. -/
  freed : Nat := 0
  deriving Inhabited

namespace Allocator

/-- List a new block for each tile, in order. -/
def populate (arena : Arena) (tiles : List Tile) : Except Failure Arena :=
  tiles.foldlM (fun arena tile => do
    let (id, arena) ← arena.insert { position := tile.position, order := tile.order }
    arena.pushBack id) arena

/-- The allocator of a space in which all is free. -/
def ofSpace (space : Space) : Except Failure Allocator := do
  let arena ← populate (.create space.maxOrder) space.tiles
  return { space, arena, counts := Array.replicate (space.maxOrder + 1) {} }

/-- The allocator that a request describes. -/
def create (request : SpaceRequest) : Except Failure Allocator := do
  ofSpace (← Space.create request)

/-- Run a step of the arena that answers a value. -/
def withArena {α : Type} (step : Arena → Except Failure (α × Arena)) : Operation Allocator α := do
  let (value, arena) ← step (← get).arena
  modify ({ · with arena })
  return value

/-- Run a step of the arena. -/
def changeArena (step : Arena → Except Failure Arena) : Operation Allocator Unit := do
  let arena ← step (← get).arena
  modify ({ · with arena })

/-- The block under a handle. -/
def block (id : BlockId) : Operation Allocator Block := do
  (← get).arena.block id

/-- Change the counts of an order. -/
def changeCount (order : Nat) (change : OrderCount → Except Failure OrderCount) :
    Operation Allocator Unit := do
  let count ← change (← Operation.entry (← get).counts order)
  modify fun allocator => { allocator with counts := allocator.counts.setIfInBounds order count }

/-- Put a loose block on its free list. Blocks for big pages of a GPU space go to the tail, all
others to the head. -/
def list (id : BlockId) : Operation Allocator Unit := do
  let block ← block id
  if (← get).space.fromTail block.pageClass then
    changeArena (·.pushBack id)
  else
    changeArena (·.pushFront id)

/-- Split a loose block, list its right half and answer both halves. -/
def split (id : BlockId) (pageClass : PageClass) : Operation Allocator (BlockId × BlockId) := do
  let block ← block id
  if block.state ≠ .loose then
    Operation.abort (.block (.splitting id))
  match block.order with
  | 0 => Operation.abort (.block (.splittingLeaf id))
  | order + 1 =>
      let pageClass := if (← get).space.tags order then pageClass else .any
      let left ← withArena (·.insert { position := block.position, order, pageClass })
      let right ← withArena (·.insert {
        position := block.position + twoPow order, order, pageClass,
        family := some { parent := id, buddy := left } })
      changeArena (·.update left ({ · with family := some { parent := id, buddy := right } }))
      changeArena (·.update id ({ · with state := .split left right }))
      changeCount block.order fun count => .ok { count with split := count.split + 1 }
      list right
      return (left, right)

/-- Hand out a loose block. -/
def markAllocated (id : BlockId) : Operation Allocator Unit := do
  let block ← block id
  if block.state ≠ .loose then
    Operation.abort (.block (.allocating id))
  changeArena (·.update id ({ · with state := .allocated }))
  changeCount block.order fun count => .ok { count with allocated := count.allocated + 1 }

/-- Join free halves, from a listed block upward. After `levels` joins there is nothing to join. -/
def coalesce : (levels : Nat) → BlockId → Operation Allocator Unit
  | 0, id => do
      let half ← block id
      if let some family := half.family then
        let buddy ← block family.buddy
        if half.isListed && buddy.isListed then
          Operation.abort (.block (.endlessJoin id))
  | levels + 1, id => do
      let half ← block id
      if let some family := half.family then
        let buddy ← block family.buddy
        if half.isListed && buddy.isListed then
          changeArena (·.unlink id)
          changeArena (·.unlink family.buddy)
          let _ ← withArena (·.remove id)
          let _ ← withArena (·.remove family.buddy)
          let parent ← block family.parent
          changeArena (·.update family.parent ({ · with state := .loose }))
          changeCount parent.order fun count => do
            return { count with split := ← Checked.sub count.split 1 }
          list family.parent
          coalesce levels family.parent

/-- Take back a block that was handed out. -/
def release (id : BlockId) : Operation Allocator Unit := do
  let block ← block id
  if block.state ≠ .allocated then
    Operation.abort (.block (.releasing id))
  changeArena (·.update id ({ · with state := .loose }))
  changeCount block.order fun count => do
    return { count with allocated := ← Checked.sub count.allocated 1 }
  list id
  coalesce ((← get).space.maxOrder - block.order) id

/-- The orders from a given one up to the greatest. -/
def ordersFrom (space : Space) (order : Nat) : List Nat :=
  List.range' order (space.maxOrder + 1 - order)

/-- The first block on the free lists of some orders that passes a test. -/
def search (arena : Arena) (backward : Bool) (accept : Nat → Block → Bool) :
    (orders : List Nat) → Except Failure (Option (BlockId × Block))
  | [] => .ok none
  | order :: orders => do
      match (← arena.listed order backward).find? fun (_, block) => accept order block with
      | some found => return some found
      | none => search arena backward accept orders

/-- The first free block of an order or above that serves a class. -/
def findFree (allocator : Allocator) (order : Nat) (pageClass : PageClass) :
    Except Failure (Option (BlockId × Block)) :=
  search allocator.arena (allocator.space.fromTail pageClass)
    (fun _ block => block.pageClass.accepts pageClass) (ordersFrom allocator.space order)

/-- The free block around a tile, of the least order, that serves a class. -/
def findAround (allocator : Allocator) (tile : Tile) (pageClass : PageClass) :
    Except Failure (Option (BlockId × Block)) :=
  search allocator.arena false
    (fun order block =>
      block.position = tile.position / twoPow order * twoPow order &&
        block.pageClass.accepts pageClass)
    (ordersFrom allocator.space tile.order)

/-- Split a loose block `levels` times and answer the leftmost part, loose. -/
def splitLeft (pageClass : PageClass) : (levels : Nat) → BlockId → Operation Allocator BlockId
  | 0, id => pure id
  | levels + 1, id => do
      let (left, _) ← split id pageClass
      splitLeft pageClass levels left

/-- Add to the totals of bytes asked for and handed out. -/
def account (asked given : Nat) : Operation Allocator Unit := do
  let requested ← Checked.add64 (← get).requested asked
  modify ({ · with requested })
  let reserved ← Checked.add64 (← get).reserved given
  modify ({ · with reserved })

/-- Allocate at least `len` bytes anywhere and answer the address. -/
def allocate (len : Nat) (wanted : PageClass := .any) : Operation Allocator Nat := do
  let space := (← get).space
  if len = 0 then
    Operation.refuse (.invalidConfig (space.name ++ ": zero-length allocation"))
  let order := Alignment.orderFor ((len + space.blockSize - 1) / space.blockSize)
  if space.maxOrder < order then
    Operation.refuse (.tooLarge len order space.maxOrder)
  let pageClass := space.classFor wanted
  match ← (← get).findFree order pageClass with
  | none => Operation.refuse .exhausted
  | some (id, found) =>
      changeArena (·.unlink id)
      let id ← splitLeft pageClass (found.order - order) id
      markAllocated id
      let address := space.address (← block id).position
      modify fun allocator => { allocator with ordinary := allocator.ordinary.insert address id }
      account len (space.blockLength order)
      return address

/-- Whether a range that ends in the space meets a live allocation. The live ranges are disjoint,
so of those that start before its end only the last can reach into it. -/
def overlaps (allocator : Allocator) (base len : Nat) : Except Failure Bool := do
  let ordinary ← match allocator.ordinary.lastBelow? (base + len) with
    | some (address, id) => do
        let block ← allocator.arena.block id
        pure (decide (base < address + allocator.space.blockLength block.order))
    | none => pure false
  let fixed := match allocator.fixed.lastBelow? (base + len) with
    | some (address, range) => decide (base < address + range.len)
    | none => false
  return ordinary || fixed

/-- Split a loose block `levels` times toward a position and answer the part there, loose. -/
def splitToward (position : Nat) (pageClass : PageClass) :
    (levels : Nat) → BlockId → Operation Allocator BlockId
  | 0, id => pure id
  | levels + 1, id => do
      let (left, right) ← split id pageClass
      if position < (← block right).position then
        splitToward position pageClass levels left
      else
        changeArena (·.unlink right)
        list left
        splitToward position pageClass levels right

/-- Take the block of a tile off the free lists, if it is free. -/
def claim (tile : Tile) (pageClass : PageClass) : Operation Allocator (Option BlockId) := do
  match ← (← get).findAround tile pageClass with
  | none => return none
  | some (id, found) =>
      changeArena (·.unlink id)
      return some (← splitToward tile.position pageClass (found.order - tile.order) id)

/-- Hand out the blocks of some tiles. If one is not free, those handed out so far are taken back
and the request is refused. -/
def claimAll (pageClass : PageClass) :
    List Tile → (claimed : List BlockId) → Operation Allocator (List BlockId)
  | [], claimed => pure claimed.reverse
  | tile :: tiles, claimed => do
      match ← claim tile pageClass with
      | some id =>
          markAllocated id
          claimAll pageClass tiles (id :: claimed)
      | none =>
          claimed.reverse.forM release
          Operation.refuse .exhausted

/-- Whether a range is not empty, lies in the space and starts and ends at blocks. -/
def placeable (space : Space) (base len : Nat) : Bool :=
  len ≠ 0 && space.start ≤ base && base + len ≤ space.limit && base % space.blockSize = 0 &&
    len % space.blockSize = 0

/-- Allocate exactly the range of `len` bytes from `base`. -/
def allocateFixed (base len : Nat) (wanted : PageClass := .any) : Operation Allocator Nat := do
  let space := (← get).space
  if !placeable space base len then
    Operation.refuse (.invalidRange base len)
  let pageClass := space.classFor wanted
  if ← (← get).overlaps base len then
    Operation.refuse (.rangeInUse base len)
  let first := space.position base
  let tiles ← claimAll pageClass (tiling space.maxOrder first (first + len / space.blockSize)) []
  modify fun allocator => { allocator with fixed := allocator.fixed.insert base { len, tiles } }
  account len len
  return base

/-- Add to the total of bytes that came back. -/
def accountFreed (bytes : Nat) : Operation Allocator Unit := do
  let freed ← Checked.add64 (← get).freed bytes
  modify ({ · with freed })

/-- Release the allocation that starts at an address; without one nothing happens. -/
def free (address : Nat) : Operation Allocator Unit := do
  let allocator ← get
  match allocator.ordinary.find? address with
  | some id =>
      set { allocator with ordinary := allocator.ordinary.erase address }
      accountFreed (allocator.space.blockLength (← block id).order)
      release id
  | none =>
      match allocator.fixed.find? address with
      | some range =>
          set { allocator with fixed := allocator.fixed.erase address }
          accountFreed range.len
          range.tiles.forM release
      | none => pure ()

/-- Take a block off its free list and give it back. Only blocks that the space started with may
be left. -/
def retire (arena : Arena) (id : BlockId) : Except Failure Arena := do
  let (block, arena) ← (← arena.unlink id).remove id
  if block.family.isSome then
    Arena.failing (.unmergedChild id)
  return arena

/-- Give every block on the free list of an order back. -/
def drain (order : Nat) : Operation Allocator Unit :=
  changeArena fun arena => do
    ((← arena.listed order).map (·.1)).foldlM retire arena

/-- Check that no block of an order is handed out or split. -/
def checkCount (count : OrderCount) (order : Nat) : Operation Allocator Unit := do
  if count ≠ {} then
    Operation.abort (.block (.leftoverCount order))

/-- Release all that is left, fixed allocations first, and check that nothing leaks. -/
def destroy : Operation Allocator Unit := do
  (← get).fixed.keys.forM free
  (← get).ordinary.keys.forM free
  (List.range ((← get).space.maxOrder + 1)).forM drain
  let allocator ← get
  allocator.counts.toList.zipIdx.forM fun (count, order) => checkCount count order
  if allocator.arena.live ≠ 0 then
    Operation.abort (.block (.leakedNodes allocator.arena.live))

/-- A call that changes an allocator. -/
inductive Request where
  | allocate (len : Nat) (pageClass : PageClass)
  | allocateFixed (base len : Nat) (pageClass : PageClass)
  | free (address : Nat)
  deriving DecidableEq, Repr

/-- Carry out a request; the answer is the address that it is about. -/
def perform : Request → Operation Allocator Nat
  | .allocate len pageClass => allocate len pageClass
  | .allocateFixed base len pageClass => allocateFixed base len pageClass
  | .free address => do
      free address
      return address

end Allocator

end GpuSched.Buddy
