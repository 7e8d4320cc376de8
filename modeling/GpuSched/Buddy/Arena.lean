import GpuSched.Buddy.Block
import GpuSched.Checked

/-!
# Arena of blocks

An arena holds the blocks of one allocator under handles and links the free ones of each order
into a doubly linked list. A handle that was given back is the first to be used again. Every use
of a handle is checked, and a block is listed only while it is loose.
-/
namespace GpuSched.Buddy

/-- The ends and the length of a free list. -/
structure FreeList where
  head : Option BlockId := none
  tail : Option BlockId := none
  length : Nat := 0
  deriving DecidableEq, Repr, Inhabited

/-- Blocks under handles, with a free list for each order. -/
structure Arena where
  /-- The block under each handle, if the handle is in use. -/
  nodes : Array (Option Block) := #[]
  /-- The handles that were given back, the latest first. -/
  vacant : List BlockId := []
  /-- The free list of each order. -/
  lists : Array FreeList
  deriving Inhabited

namespace Arena

/-- The arena without blocks, for orders up to a greatest one. -/
def create (maxOrder : Nat) : Arena := { lists := Array.replicate (maxOrder + 1) {} }

/-- The failure of a check. -/
abbrev failing {α : Type} (check : BlockCheck) : Except Failure α :=
  .error (.aborted (.block check))

/-- The block under a handle, if there is one. -/
def block? (arena : Arena) (id : BlockId) : Option Block := arena.nodes[id]?.join

/-- The block under a handle. -/
def block (arena : Arena) (id : BlockId) : Except Failure Block :=
  match arena.block? id with
  | some block => .ok block
  | none => failing (.staleHandle id)

/-- The arena with another block under a handle that is in use. -/
def put (arena : Arena) (id : BlockId) (block : Block) : Arena :=
  { arena with nodes := arena.nodes.setIfInBounds id (some block) }

/-- The arena with the block under a handle changed. -/
def update (arena : Arena) (id : BlockId) (change : Block → Block) : Except Failure Arena := do
  return arena.put id (change (← arena.block id))

/-- The greatest number of handles. -/
def capacity : Nat := 0xffffffff

/-- Put a block under a handle that is not in use. -/
def insert (arena : Arena) (block : Block) : Except Failure (BlockId × Arena) :=
  match arena.vacant with
  | id :: vacant => .ok (id, { arena.put id block with vacant })
  | [] =>
      if arena.nodes.size < capacity then
        .ok (arena.nodes.size, { arena with nodes := arena.nodes.push (some block) })
      else
        failing .arenaFull

/-- Give a handle back. Its block must not be listed. -/
def remove (arena : Arena) (id : BlockId) : Except Failure (Block × Arena) :=
  match arena.block? id with
  | none => failing (.doubleRelease id)
  | some block =>
      if block.isListed then
        failing (.listedRelease id)
      else
        .ok (block,
          { arena with nodes := arena.nodes.setIfInBounds id none, vacant := id :: arena.vacant })

/-- The number of handles in use. -/
def live (arena : Arena) : Nat := arena.nodes.size - arena.vacant.length

/-- The free list of an order. -/
def freeList (arena : Arena) (order : Nat) : Except Failure FreeList :=
  match arena.lists[order]? with
  | some list => .ok list
  | none => .error (.aborted (.missingEntry order))

/-- The length of the free list of an order. -/
def listLength (arena : Arena) (order : Nat) : Nat := (arena.lists.getD order {}).length

/-- The arena with another free list for an order. -/
def putList (arena : Arena) (order : Nat) (list : FreeList) : Arena :=
  { arena with lists := arena.lists.setIfInBounds order list }

/-- The block under a handle, which has to be loose to be listed. -/
def looseBlock (arena : Arena) (id : BlockId) : Except Failure Block := do
  let block ← arena.block id
  if block.state = .loose then return block else failing (.listing id)

/-- Put a loose block at the head of the free list of its order. -/
def pushFront (arena : Arena) (id : BlockId) : Except Failure Arena := do
  let block ← arena.looseBlock id
  let list ← arena.freeList block.order
  let arena := arena.put id { block with state := .listed none list.head }
  match list.head with
  | some head =>
      let arena ← arena.update head (·.withPrevious (some id))
      return arena.putList block.order
        { list with head := some id, length := list.length + 1 }
  | none =>
      return arena.putList block.order
        { head := some id, tail := some id, length := list.length + 1 }

/-- Put a loose block at the tail of the free list of its order. -/
def pushBack (arena : Arena) (id : BlockId) : Except Failure Arena := do
  let block ← arena.looseBlock id
  let list ← arena.freeList block.order
  let arena := arena.put id { block with state := .listed list.tail none }
  match list.tail with
  | some tail =>
      let arena ← arena.update tail (·.withNext (some id))
      return arena.putList block.order
        { list with tail := some id, length := list.length + 1 }
  | none =>
      return arena.putList block.order
        { head := some id, tail := some id, length := list.length + 1 }

/-- Take a block off the free list of its order; it is loose then. -/
def unlink (arena : Arena) (id : BlockId) : Except Failure Arena := do
  let block ← arena.block id
  match block.state with
  | .loose | .split _ _ | .allocated => failing (.unlinking id)
  | .listed previous next =>
      let list ← arena.freeList block.order
      let arena := arena.put id { block with state := .loose }
      let arena ← match previous with
        | some previous => arena.update previous (·.withNext next)
        | none => pure arena
      let arena ← match next with
        | some next => arena.update next (·.withPrevious previous)
        | none => pure arena
      return arena.putList block.order
        { head := if previous.isSome then list.head else next
          tail := if next.isSome then list.tail else previous
          length := ← Checked.sub list.length 1 }

/-- The blocks from a handle to the end of a free list of at most `steps` blocks. -/
def walk (arena : Arena) (order : Nat) (backward : Bool) :
    (steps : Nat) → Option BlockId → Except Failure (List (BlockId × Block))
  | _, none => .ok []
  | 0, some _ => failing (.endlessList order)
  | steps + 1, some id => do
      let block ← arena.block id
      return (id, block) :: (← walk arena order backward steps (block.neighbour backward))

/-- The blocks on the free list of an order, from its head or from its tail. -/
def listed (arena : Arena) (order : Nat) (backward : Bool := false) :
    Except Failure (List (BlockId × Block)) := do
  let list ← arena.freeList order
  arena.walk order backward arena.nodes.size (if backward then list.tail else list.head)

end Arena

end GpuSched.Buddy
