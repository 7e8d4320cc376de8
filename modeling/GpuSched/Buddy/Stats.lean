import GpuSched.Buddy.Allocator

/-!
# Statistics of an allocator

A snapshot of the counts of each order and of the bytes of an allocator, and its text. Orders
without blocks are left out of the text, the greatest order comes first.
-/
namespace GpuSched.Buddy

open Numeral (column hex hexDigits)

/-- The counts of one order. -/
structure OrderStats where
  order : Nat
  /-- Bytes of a block of the order. -/
  blockLength : Nat
  free : Nat
  allocated : Nat
  split : Nat
  deriving DecidableEq, Repr

/-- A snapshot of an allocator. -/
structure AllocatorStats where
  space : Space
  requested : Nat
  reserved : Nat
  freed : Nat
  liveOrdinary : Nat
  liveFixed : Nat
  /-- The counts of all orders, ascending. -/
  orders : List OrderStats
  deriving DecidableEq, Repr

/-- Bytes of the range asked for that the space leaves out. -/
def Space.alignLoss (space : Space) : Nat := space.length - (space.limit - space.start)

/-- Whether an order has blocks. -/
def OrderStats.inUse (stats : OrderStats) : Bool :=
  stats.free ≠ 0 || stats.allocated ≠ 0 || stats.split ≠ 0

/-- The counts of one order of an allocator. -/
def Allocator.orderStats (allocator : Allocator) (order : Nat) : OrderStats where
  order
  blockLength := allocator.space.blockLength order
  free := allocator.arena.listLength order
  allocated := (allocator.counts.getD order {}).allocated
  split := (allocator.counts.getD order {}).split

/-- The snapshot of an allocator. -/
def Allocator.stats (allocator : Allocator) : AllocatorStats where
  space := allocator.space
  requested := allocator.requested
  reserved := allocator.reserved
  freed := allocator.freed
  liveOrdinary := allocator.ordinary.size
  liveFixed := allocator.fixed.size
  orders := (List.range (allocator.space.maxOrder + 1)).map allocator.orderStats

namespace AllocatorStats

/-- Bytes on free lists. -/
def freeBytes (stats : AllocatorStats) : Nat :=
  stats.orders.foldr (fun order bytes => order.free * order.blockLength + bytes) 0

/-- Bytes in blocks that are handed out. -/
def allocatedBytes (stats : AllocatorStats) : Nat :=
  stats.orders.foldr (fun order bytes => order.allocated * order.blockLength + bytes) 0

/-- Bytes handed out that have not come back. -/
def outstandingBytes (stats : AllocatorStats) : Except Failure Nat :=
  Checked.sub stats.reserved stats.freed

/-- The line of one order. -/
def orderLine (order : OrderStats) : String :=
  "  " ++ column 5 (toString order.order) ++ "  " ++ column 12 (hexDigits order.blockLength) ++
    "  " ++ column 6 (toString order.free) ++ "  " ++ column 6 (toString order.allocated) ++
    "  " ++ column 6 (toString order.split)

/-- The lines of a snapshot. -/
def lines (stats : AllocatorStats) : List String :=
  let space := stats.space
  [ "buddy allocator '" ++ space.name ++ "'",
    "  range      " ++ hex space.base ++ " + " ++ hex space.length ++ " (usable " ++
      hex space.start ++ " - " ++ hex space.limit ++ ", " ++ toString space.alignLoss ++
      " bytes lost)",
    "  block      " ++ hex space.blockSize ++ ", max order " ++ toString space.maxOrder,
    "  bytes      requested " ++ toString stats.requested ++ " reserved " ++
      toString stats.reserved ++ " freed " ++ toString stats.freed,
    "  live       " ++ toString stats.liveOrdinary ++ " allocations, " ++
      toString stats.liveFixed ++ " fixed",
    "  order  " ++ column 12 "block" ++ "  " ++ column 6 "free" ++ "  " ++ column 6 "alloc" ++
      "  " ++ column 6 "split" ] ++
    (stats.orders.reverse.filter (·.inUse)).map orderLine

/-- The text of a snapshot, each line with its end. -/
def text (stats : AllocatorStats) : String :=
  String.join (stats.lines.map (· ++ "\n"))

end AllocatorStats

end GpuSched.Buddy
