import GpuSched.Buddy.PageClass
import GpuSched.PowerOfTwo

/-!
# Blocks of a buddy allocator

A block covers `twoPow order` units of a space from a position that is a multiple of its length. It
is in exactly one of four states: on a free list, handed out, split into two halves, or loose
while the allocator works on it. A half knows its parent and its buddy, the other half.
-/
namespace GpuSched.Buddy

/-- The handle of a block in its arena. -/
abbrev BlockId : Type := Nat

/-- What a block is used for. -/
inductive BlockState where
  /-- Neither listed nor in use. -/
  | loose
  /-- On the free list of its order, between two neighbours. -/
  | listed (previous next : Option BlockId)
  /-- Divided into two halves. -/
  | split (left right : BlockId)
  /-- Handed out. -/
  | allocated
  deriving DecidableEq, Repr

/-- Where a half comes from. -/
structure Family where
  /-- The block that was split. -/
  parent : BlockId
  /-- The other half. -/
  buddy : BlockId
  deriving DecidableEq, Repr

/-- A block. -/
structure Block where
  /-- Distance from the start of the space, in units. -/
  position : Nat
  /-- The length is `twoPow order` units. -/
  order : Nat
  /-- The page size the block is set aside for. -/
  pageClass : PageClass := .any
  state : BlockState := .loose
  /-- Present in a half, absent in a block that the space started with. -/
  family : Option Family := none
  deriving DecidableEq, Repr

namespace Block

/-- The length in units. -/
def span (block : Block) : Nat := twoPow block.order

/-- Whether the block is on a free list. -/
def isListed (block : Block) : Bool :=
  match block.state with
  | .listed _ _ => true
  | .loose | .split _ _ | .allocated => false

/-- The next block of its free list, or the previous one when the list is read backward. -/
def neighbour (block : Block) (backward : Bool) : Option BlockId :=
  match block.state with
  | .listed previous next => if backward then previous else next
  | .loose | .split _ _ | .allocated => none

/-- A listed block with another block before it. -/
def withPrevious (block : Block) (previous : Option BlockId) : Block :=
  match block.state with
  | .listed _ next => { block with state := .listed previous next }
  | .loose | .split _ _ | .allocated => block

/-- A listed block with another block after it. -/
def withNext (block : Block) (next : Option BlockId) : Block :=
  match block.state with
  | .listed previous _ => { block with state := .listed previous next }
  | .loose | .split _ _ | .allocated => block

end Block

end GpuSched.Buddy
