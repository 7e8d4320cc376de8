import GpuSched.Buddy.PageClass
import GpuSched.Buddy.Tiling

/-!
# Spaces of addresses

A space is the block-aligned part of a range of addresses. Blocks are described by their distance
from its start, in units of the smallest block, so alignment counts from the start and not from
zero. A space of GPU virtual addresses also knows the order of a page directory entry: blocks up
to that order are set aside for one page size.
-/
namespace GpuSched.Buddy

open Numeral (hex)

/-- What a space is asked to be. -/
structure SpaceRequest where
  name : String
  base : Nat
  length : Nat
  blockSize : Nat
  /-- A cap on the order of blocks. -/
  maxOrder : Option Nat := none
  /-- The bytes of one page directory entry, in a space of GPU virtual addresses. -/
  directoryLength : Option Nat := none
  deriving DecidableEq, Repr

/-- The fixed parameters of an allocator. -/
structure Space where
  name : String
  /-- The range asked for. -/
  base : Nat
  length : Nat
  /-- The aligned part of the range: its first address, and the first one after it. -/
  start : Nat
  limit : Nat
  /-- The smallest block has `twoPow blockShift` bytes. -/
  blockShift : Nat
  /-- The greatest order of a block. -/
  maxOrder : Nat
  /-- The order of a page directory entry, in a space of GPU virtual addresses. -/
  directoryOrder : Option Nat
  deriving DecidableEq, Repr, Inhabited

/-- Why a space is refused. -/
inductive SpaceFault where
  | blockSize
  | emptyRange
  | wraps
  | maxOrder (order : Nat)
  | noBlock
  | directory (length : Nat)
  deriving DecidableEq, Repr

/-- The text of a refusal. -/
def SpaceFault.message (request : SpaceRequest) : SpaceFault → String
  | blockSize =>
      request.name ++ ": block size " ++ hex request.blockSize ++ " is not a power of two"
  | emptyRange => request.name ++ ": empty range"
  | wraps => request.name ++ ": range " ++ hex request.base ++ "+" ++ hex request.length ++ " wraps"
  | maxOrder order =>
      request.name ++ ": max order " ++ toString order ++ " overflows with block size " ++
        hex request.blockSize
  | noBlock =>
      request.name ++ ": range " ++ hex request.base ++ "+" ++ hex request.length ++
        " holds no " ++ hex request.blockSize ++ " block"
  | directory length =>
      request.name ++ ": PDE block length " ++ hex length ++ " below block size"

namespace Space

/-- The greatest order of any space. -/
def orderLimit : Nat := 63

/-- The order of a page directory entry of a given length. -/
def directoryOrderOf (request : SpaceRequest) (blockShift : Nat) :
    Except SpaceFault (Option Nat) :=
  match request.directoryLength with
  | none => .ok none
  | some length =>
      if length < request.blockSize then .error (.directory length)
      else .ok (some (Alignment.orderFor (length / twoPow blockShift)))

/-- A fault as a refusal. -/
def refusing {α : Type} (request : SpaceRequest) (fault : SpaceFault) : Except Failure α :=
  .error (.refused (.invalidConfig (fault.message request)))

/-- The space that a request describes. -/
def create (request : SpaceRequest) : Except Failure Space := do
  if !Alignment.isPowerOfTwo request.blockSize then
    refusing request .blockSize
  if request.length = 0 then
    refusing request .emptyRange
  if Checked.limit64 ≤ request.base + request.length then
    refusing request .wraps
  let blockShift := request.blockSize.log2
  if let some order := request.maxOrder then
    if orderLimit - blockShift < order then
      refusing request (.maxOrder order)
  let start ← Alignment.alignUp request.base request.blockSize
  let limit ← Alignment.alignDown (request.base + request.length) request.blockSize
  if limit ≤ start then
    refusing request .noBlock
  let spaceOrder := ((limit - start) / twoPow blockShift).log2
  match directoryOrderOf request blockShift with
  | .error fault => refusing request fault
  | .ok directoryOrder =>
      return {
        name := request.name, base := request.base, length := request.length, start, limit,
        blockShift, maxOrder := (request.maxOrder.getD spaceOrder).min spaceOrder, directoryOrder }

/-- The bytes of the smallest block. -/
def blockSize (space : Space) : Nat := twoPow space.blockShift

/-- The bytes of a block of an order. -/
def blockLength (space : Space) (order : Nat) : Nat := space.blockSize * twoPow order

/-- The number of units in the space. -/
def units (space : Space) : Nat := (space.limit - space.start) / space.blockSize

/-- The address of a unit. -/
def address (space : Space) (position : Nat) : Nat := space.start + position * space.blockSize

/-- The unit at an address of the space. -/
def position (space : Space) (address : Nat) : Nat := (address - space.start) / space.blockSize

/-- Whether an address lies in the space. -/
def contains (space : Space) (address : Nat) : Bool :=
  space.start ≤ address && address < space.limit

/-- Whether blocks of an order are set aside for one page size when they come about. -/
def tags (space : Space) (order : Nat) : Bool :=
  match space.directoryOrder with
  | some directoryOrder => order ≤ directoryOrder
  | none => false

/-- The class that a request is served for; a flat space knows none. -/
def classFor (space : Space) (wanted : PageClass) : PageClass :=
  if space.directoryOrder.isSome then wanted else .any

/-- Whether blocks of a class are kept at, and taken from, the tail of their free list. -/
def fromTail (space : Space) (pageClass : PageClass) : Bool :=
  space.directoryOrder.isSome && pageClass = .big

/-- The blocks that the space starts with. -/
def tiles (space : Space) : List Tile := tiling space.maxOrder 0 space.units

end Space

end GpuSched.Buddy
