import GpuSched.Buddy.Stats

/-!
# GPU virtual address spaces

An address space is divided in two: user reservations come from the bottom, kernel reservations
from the top. Both regions are buddy allocators that keep small and big pages apart in windows of
the length of a page directory entry, counted from the start of the region. A reservation is rounded
up to whole pages.
-/
namespace GpuSched

open Numeral (hex)
open Buddy (Allocator)

/-- What an address space is asked to be. -/
structure AddressSpaceRequest where
  id : Nat
  base : Nat
  length : Nat
  /-- The bytes at the top that are kept for the kernel. -/
  kernelLength : Nat
  smallPage : Nat
  bigPage : Nat
  deriving DecidableEq, Repr

/-- Why an address space is refused. -/
inductive LayoutFault where
  | pageSizes
  | emptyKernel
  | layout
  deriving DecidableEq, Repr

/-- The text of a refusal. -/
def LayoutFault.message (request : AddressSpaceRequest) : LayoutFault → String
  | pageSizes =>
      "vm " ++ toString request.id ++ ": page sizes " ++ hex request.smallPage ++ "/" ++
        hex request.bigPage
  | emptyKernel => "vm " ++ toString request.id ++ ": kernel region must not be empty"
  | layout =>
      "vm " ++ toString request.id ++ ": layout " ++ hex request.base ++ "+" ++
        hex request.length ++ " with " ++ hex request.kernelLength ++ " kernel bytes"

/-- A half of an address space. -/
inductive Region where
  | user
  | kernel
  deriving DecidableEq, Repr

/-- What a reservation is asked to be. -/
structure ReservationRequest where
  len : Nat
  region : Region := .user
  bigPages : Bool := false
  /-- The address that the reservation has to start at. -/
  fixedAt : Option Nat := none
  deriving DecidableEq, Repr

/-- A reserved range. -/
structure Reservation where
  address : Nat
  len : Nat
  pageSize : Nat
  region : Region
  deriving DecidableEq, Repr

/-- An address space. -/
structure AddressSpace where
  id : Nat
  smallPage : Nat
  bigPage : Nat
  user : Allocator
  kernel : Allocator
  deriving Inhabited

namespace AddressSpace

/-- The big pages that one page directory entry covers. -/
def pagesPerDirectory : Nat := 1024

/-- A fault as a refusal. -/
def refusing {α : Type} (request : AddressSpaceRequest) (fault : LayoutFault) :
    Except Failure α :=
  .error (.refused (.invalidConfig (fault.message request)))

/-- The address space that a request describes. -/
def create (request : AddressSpaceRequest) : Except Failure AddressSpace := do
  if !Alignment.isPowerOfTwo request.smallPage || !Alignment.isPowerOfTwo request.bigPage ||
      request.bigPage < request.smallPage then
    refusing request .pageSizes
  if request.kernelLength = 0 then
    refusing request .emptyKernel
  if !(← Alignment.isAligned request.base request.bigPage) ||
      !(← Alignment.isAligned request.kernelLength request.bigPage) ||
      request.length ≤ request.kernelLength then
    refusing request .layout
  let directoryLength ← Checked.mul64 request.bigPage pagesPerDirectory
  let userLength := request.length - request.kernelLength
  let user ← Allocator.create {
    name := "vm" ++ toString request.id ++ "-user", base := request.base, length := userLength,
    blockSize := request.smallPage, directoryLength := some directoryLength }
  let kernelBase ← Checked.add64 request.base userLength
  let kernel ← Allocator.create {
    name := "vm" ++ toString request.id ++ "-kernel", base := kernelBase,
    length := request.kernelLength, blockSize := request.smallPage,
    directoryLength := some directoryLength }
  return {
    id := request.id, smallPage := request.smallPage, bigPage := request.bigPage, user, kernel }

/-- The allocator of a region. -/
def allocator (space : AddressSpace) : Region → Allocator
  | .user => space.user
  | .kernel => space.kernel

/-- The address space with another allocator for a region. -/
def withAllocator (space : AddressSpace) (region : Region) (allocator : Allocator) :
    AddressSpace :=
  match region with
  | .user => { space with user := allocator }
  | .kernel => { space with kernel := allocator }

/-- Run an operation on the allocator of a region. -/
def onRegion {α : Type} (region : Region) (operation : Operation Allocator α) :
    Operation AddressSpace α :=
  operation.focus (·.allocator region) (·.withAllocator region ·)

/-- Reserve at least `len` bytes in whole pages. -/
def reserve (request : ReservationRequest) : Operation AddressSpace Reservation := do
  let space ← get
  let pageSize := if request.bigPages then space.bigPage else space.smallPage
  let pageClass := if request.bigPages then .big else .small
  let len ← Alignment.alignUp (max request.len 1) pageSize
  let address ← match request.fixedAt with
    | some address => do
        if !(← Alignment.isAligned address pageSize) then
          Operation.refuse (.invalidRange address len)
        onRegion request.region (Allocator.allocateFixed address len pageClass)
    | none => onRegion request.region (Allocator.allocate len pageClass)
  return { address, len, pageSize, region := request.region }

/-- Release a reservation. -/
def release (reservation : Reservation) : Operation AddressSpace Unit :=
  onRegion reservation.region (Allocator.free reservation.address)

/-- Whether an address lies in one of the regions. -/
def contains (space : AddressSpace) (address : Nat) : Bool :=
  space.user.space.contains address || space.kernel.space.contains address

/-- The snapshot of a region. -/
def stats (space : AddressSpace) (region : Region) : Buddy.AllocatorStats :=
  (space.allocator region).stats

/-- Tear both regions down, with whatever is still reserved. -/
def destroy : Operation AddressSpace Unit := do
  onRegion .user Allocator.destroy
  onRegion .kernel Allocator.destroy

end AddressSpace

end GpuSched
