import GpuSched.Checked
import GpuSched.Memory.Buffer

/-!
# Host memory

Mappings of the host in whole pages, for hardware that is simulated: the address at which the
host sees a mapping serves as its physical address. Where a mapping is placed, if it is, is up to
the host.
-/
namespace GpuSched

/-- A buffer and the address at which the host sees it. -/
structure HostMapping where
  address : Nat
  buffer : DmaBuffer

namespace HostMemory

/-- Bytes in a page. -/
def pageSize : Nat := 4096

/-- The number of bytes that a request takes: whole pages, at least one. -/
def roundedSize (size : Nat) : Except Failure Nat :=
  let pages := (max size 1 + (pageSize - 1)) / pageSize
  if pages * pageSize < Checked.limit64 then .ok (pages * pageSize) else .error (.aborted .overflow)

/-- A host with room for one mapping in the 47 bits of a user address. -/
def place? (size : Nat) : Option Nat :=
  if size < 0x800000000000 then some 0x100000000 else none

/-- Map a zeroed region of at least `size` bytes where a host places it. -/
def map (size : Nat) (host : Nat → Option Nat := place?) : Except Failure HostMapping := do
  let rounded ← roundedSize size
  match host rounded with
  | some address => return { address, buffer := { physical := address, size := rounded } }
  | none => throw (.refused .io)

end HostMemory

/-- Whether a mapping starts at a page. -/
def HostMapping.aligned (mapping : HostMapping) : Bool :=
  mapping.buffer.physical % HostMemory.pageSize = 0

/-- Whether the physical address of a mapping is the one that the host sees. -/
def HostMapping.identity (mapping : HostMapping) : Bool :=
  mapping.buffer.physical = mapping.address

end GpuSched
