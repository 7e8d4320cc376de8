import GpuSched.Failure
import GpuSched.Table

/-!
# Memory shared with the hardware

A buffer is a contiguous region at a physical address that the host writes and the hardware
reads, 32 bits at a time. A new buffer holds zeros. Accesses past the end abort.
-/
namespace GpuSched

/-- A physically contiguous region. -/
structure DmaBuffer where
  /-- Which request of its pool the buffer answered. -/
  serial : Nat := 0
  /-- Physical address of the first byte. -/
  physical : Nat
  /-- Length in bytes. -/
  size : Nat
  /-- The words that were written; every other one is zero. -/
  contents : Table UInt32 := .empty

namespace DmaBuffer

/-- How many words the region holds. -/
def wordCount (buffer : DmaBuffer) : Nat := buffer.size / 4

/-- The word at an index, without the bound. -/
def word (buffer : DmaBuffer) (index : Nat) : UInt32 := (buffer.contents.find? index).getD 0

/-- The word at an index. -/
def read (buffer : DmaBuffer) (index : Nat) : Except Failure UInt32 :=
  if index < buffer.wordCount then .ok (buffer.word index) else .error (.aborted .readPastEnd)

/-- The buffer with the word at an index changed. -/
def write (buffer : DmaBuffer) (index : Nat) (value : UInt32) : Except Failure DmaBuffer :=
  if index < buffer.wordCount then
    .ok { buffer with contents := buffer.contents.insert index value }
  else
    .error (.aborted .writePastEnd)

/-- The first `count` words. -/
def firstWords (buffer : DmaBuffer) (count : Nat) : List UInt32 :=
  (List.range count).map buffer.word

end DmaBuffer

end GpuSched
