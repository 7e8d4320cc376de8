import GpuSched.Memory.Buffer
import GpuSched.Operation

/-!
# Pool of shared memory

A pool answers requests for buffers by a plan: for each request, counted from zero with the
refused ones, the physical address of a new buffer or the reason of the refusal. A buffer may be
longer than what was asked for. The pool records what was asked for and which buffers are still out.
-/
namespace GpuSched

/-- The state of a pool. -/
structure MemoryPool where
  /-- The answer to each request. -/
  plan : Nat → Except Error Nat
  /-- By how many bytes the buffer of each request exceeds the size asked for in whole words. -/
  excess : Nat → Nat := fun _ => 0
  /-- The sizes asked for, the latest first. -/
  requested : List Nat := []
  /-- The serial numbers of the buffers that are out, the latest first. -/
  live : List Nat := []
  /-- The serial numbers of the buffers that were given back, the latest first. -/
  released : List Nat := []

namespace MemoryPool

/-- The plan that places the buffers at equal distances and refuses at most one request. -/
def linearPlan (base stride : Nat) (refused : Option Nat) (serial : Nat) : Except Error Nat :=
  if refused = some serial then .error .exhausted else .ok (base + serial * stride)

/-- Ask for a zeroed buffer of at least `size` bytes. -/
def allocate (size : Nat) : Operation MemoryPool DmaBuffer := do
  let pool ← get
  let serial := pool.requested.length
  let pool := { pool with requested := size :: pool.requested }
  match pool.plan serial with
  | .ok physical =>
      set { pool with live := serial :: pool.live }
      return { serial, physical, size := (size + 3) / 4 * 4 + pool.excess serial }
  | .error error =>
      set pool
      Operation.refuse error

/-- Give a buffer back. -/
def release (buffer : DmaBuffer) : Operation MemoryPool Unit :=
  modify fun pool =>
    { pool with
      live := pool.live.erase buffer.serial
      released := buffer.serial :: pool.released }

end MemoryPool

end GpuSched
