import GpuSched.Register.MemoryFault

/-!
# Reasons for a faulted channel

Why a channel was stopped: the hardware reported a fault of its context, a wait for it ran out of
time, or a client asked for its recovery.
-/
namespace GpuSched

/-- Why a channel was marked faulted. -/
inductive FaultReason where
  | memoryFault (fault : MemoryFault)
  | pbdma (unit : Nat) (interrupts : UInt32)
  /-- A preempt of the context, or a wait for its engine, did not end. -/
  | idleTimeout
  /-- Its engine did not finish a context switch. -/
  | switchTimeout
  /-- A list of its runlist was not picked up. -/
  | runlistTimeout
  /-- A client asked for it. -/
  | forced
  deriving DecidableEq, Repr

/-- The text of a reason. -/
def FaultReason.message : FaultReason → String
  | memoryFault fault => "mmu fault: " ++ fault.message
  | pbdma unit interrupts =>
      "pbdma " ++ toString unit ++ " fault (intr " ++ Numeral.hexWord interrupts.toNat ++ ")"
  | idleTimeout => "idle timeout"
  | switchTimeout => "context switch timeout"
  | runlistTimeout => "runlist timeout"
  | forced => "forced recovery"

end GpuSched
