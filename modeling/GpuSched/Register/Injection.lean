import GpuSched.Register.Simulation

/-!
# Injected hardware events

What can happen to the simulated hardware on its own, not through a register access of its
driver: status words change, requests hang, and faults, scheduler errors and PBDMA interrupts
are raised.
-/
namespace GpuSched

/-- An event on the side of the hardware. -/
inductive Injection where
  | word (offset : Nat) (value : UInt32)
  | engineStatus (engine : Nat) (status : UnitStatus)
  | pbdmaStatus (pbdma : Nat) (status : UnitStatus)
  | hangRunlist (runlist : Nat) (mode : HangMode)
  | hangPreempt (mode : HangMode)
  | fault (faultId : Nat) (words : FaultWords)
  | schedulerError (code : UInt32)
  | pbdmaInterrupt (pbdma : Nat) (bits : UInt32)
  deriving DecidableEq, Repr

/-- The hardware after an event. -/
def Simulation.inject (sim : Simulation) : Injection → Except Failure Simulation
  | .word offset value => .ok (sim.setWord offset value)
  | .engineStatus engine status => sim.setEngineStatus engine status.encode
  | .pbdmaStatus pbdma status => sim.setPbdmaStatus pbdma status.encode
  | .hangRunlist runlist mode => .ok (sim.hangRunlist runlist mode)
  | .hangPreempt mode => .ok (sim.hangPreempt mode)
  | .fault faultId words => sim.raiseFault faultId words
  | .schedulerError code => .ok (sim.raiseSchedulerError code)
  | .pbdmaInterrupt pbdma bits => sim.raisePbdma pbdma bits

end GpuSched
