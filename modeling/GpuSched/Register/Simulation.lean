import GpuSched.Register.Layout
import GpuSched.Register.MemoryFault
import GpuSched.Register.UnitStatus
import GpuSched.Table

/-!
# Simulated hardware

A table of register words with the behavior that the scheduler depends on. A submitted runlist
and a preempt request read as pending for a number of reads, or until a hang is lifted. Writing
to an interrupt register clears the written bits. Lowering a unit enable is a reset: it is logged
and lifts the hangs that last until a reset. The set and clear bits of a channel change its
enable bit.
-/
namespace GpuSched

/-- How long an injected hang lasts. -/
inductive HangMode where
  /-- Until any unit is reset. -/
  | untilReset
  /-- Without end. -/
  | forever
  deriving DecidableEq, Repr

/-- A request that the hardware has yet to complete. -/
structure Pending where
  /-- How many more reads see it as pending. -/
  readsLeft : Nat := 0
  /-- The hang that keeps it pending. -/
  hang : Option HangMode := none
  deriving DecidableEq, Repr, Inhabited

namespace Pending

/-- What one read of the pending bit sees, and what it leaves. -/
def read (pending : Pending) : Bool × Pending :=
  if pending.hang.isSome then (true, pending)
  else if 0 < pending.readsLeft then (true, { pending with readsLeft := pending.readsLeft - 1 })
  else (false, pending)

/-- The request after a reset, which lifts the hangs that end with one. -/
def afterReset (pending : Pending) : Pending :=
  if pending.hang = some .untilReset then { pending with hang := none } else pending

end Pending

/-- A list handed to the hardware. -/
structure Submission where
  runlist : Nat
  /-- Physical address of the list, as the hardware read it. -/
  base : Nat
  /-- Number of entries. -/
  count : Nat
  deriving DecidableEq, Repr

/-- The state of the simulated hardware. -/
structure Simulation where
  /-- The words that were written; every other register holds zero. -/
  words : Table UInt32 := .empty
  /-- How many reads see a new request as pending. -/
  latency : Nat := 1
  /-- The latest request of each runlist. -/
  runlists : Table Pending := .empty
  /-- Hangs for the next submissions, by runlist. -/
  runlistHangs : Table HangMode := .empty
  /-- The latest preempt request. -/
  preempt : Pending := {}
  /-- The hang for the next preempt requests. -/
  preemptHang : Option HangMode := none
  /-- Every submission, the latest first. -/
  submissions : List Submission := []
  /-- Every preempt request, the latest first. -/
  preempts : List UInt32 := []
  /-- Every unit that was reset, the latest first. -/
  resets : List Nat := []

namespace Simulation

/-- The hardware after power-up, with every unit enabled. -/
def start (latency : Nat := 1) : Simulation :=
  { words := Table.empty.insert Register.unitEnable 0xffffffff, latency }

instance : Inhabited Simulation := ⟨start⟩

/-- The word of a register. -/
def word (sim : Simulation) (offset : Nat) : UInt32 := (sim.words.find? offset).getD 0

/-- The hardware with one word changed and no other effect. -/
def setWord (sim : Simulation) (offset : Nat) (value : UInt32) : Simulation :=
  { sim with words := sim.words.insert offset value }

@[simp] theorem word_setWord (sim : Simulation) (offset other : Nat) (value : UInt32) :
    (sim.setWord offset value).word other = if other = offset then value else sim.word other := by
  simp only [word, setWord, Table.find?_insert]
  split <;> rfl

/-- A status word with its pending bit as given. -/
def markPending (bit word : UInt32) (pending : Bool) : UInt32 :=
  if pending then (word &&& ~~~bit) ||| bit else word &&& ~~~bit

/-- What a read answers, and the hardware after it. -/
def read (sim : Simulation) (offset : Nat) : UInt32 × Simulation :=
  match Register.runlistStatus.index? Register.runlistCount offset with
  | some runlist =>
      let (pending, later) := ((sim.runlists.find? runlist).getD {}).read
      (markPending Register.runlistPendingBit (sim.word offset) pending,
        { sim with runlists := sim.runlists.insert runlist later })
  | none =>
      if offset = Register.preempt then
        let (pending, later) := sim.preempt.read
        (markPending Register.preemptPendingBit (sim.word offset) pending,
          { sim with preempt := later })
      else
        (sim.word offset, sim)

/-- The hardware with the hangs lifted that end with a reset. A lasting hang that was set after a
request takes hold of that request. -/
def liftHangs (sim : Simulation) : Simulation :=
  let hangs := sim.runlistHangs.filter fun _ mode => mode = .forever
  { sim with
    runlistHangs := hangs
    runlists := sim.runlists.map fun runlist pending =>
      match hangs.find? runlist with
      | some mode => { pending.afterReset with hang := some mode }
      | none => pending.afterReset
    preemptHang := if sim.preemptHang = some .untilReset then none else sim.preemptHang
    preempt := sim.preempt.afterReset }

/-- The numbers of the set bits of a word, ascending. -/
def setBits (word : UInt32) : List Nat :=
  (List.range 32).filter fun bit => word &&& ((1 : UInt32) <<< UInt32.ofNat bit) != 0

/-- The hardware after it took over the list of a runlist. -/
def submit (sim : Simulation) (runlist offset : Nat) (value : UInt32) : Simulation :=
  let low := sim.word (Register.runlistBaseLow.base + runlist * Register.runlistBaseLow.stride)
  let high := sim.word (Register.runlistBaseHigh.base + runlist * Register.runlistBaseHigh.stride)
  let page := high.toNat * Checked.limit32 + low.toNat
  { sim.setWord offset value with
    submissions :=
      ⟨runlist, page * Register.pageSize % Checked.limit64,
        (value &&& Register.entryCountMask).toNat⟩ :: sim.submissions
    runlists := sim.runlists.insert runlist ⟨sim.latency, sim.runlistHangs.find? runlist⟩ }

/-- The hardware after a preempt request. -/
def requestPreempt (sim : Simulation) (value : UInt32) : Simulation :=
  { sim.setWord Register.preempt (value &&& ~~~Register.preemptPendingBit) with
    preempts := value :: sim.preempts
    preempt := ⟨sim.latency, sim.preemptHang⟩ }

/-- The hardware after a change of the unit enables. Each lowered bit resets its unit. -/
def enableUnits (sim : Simulation) (value : UInt32) : Simulation :=
  let lowered := sim.word Register.unitEnable &&& ~~~value
  let logged := { sim with resets := (setBits lowered).reverse ++ sim.resets }
  (if lowered = 0 then logged else logged.liftHangs).setWord Register.unitEnable value

/-- The channel control word after a write. -/
def channelWord (word value : UInt32) : UInt32 :=
  let raised :=
    if value &&& Register.channelEnableSet = 0 then word else word ||| Register.channelEnableBit
  if value &&& Register.channelEnableClear = 0 then raised
  else raised &&& ~~~Register.channelEnableBit

/-- Whether a written one clears its bit of a register. -/
def clearsOnWrite (offset : Nat) : Bool :=
  offset = Register.interrupt || offset = Register.faultPending || offset = Register.faultHalt ||
    offset = Register.pbdmaPending ||
    (Register.pbdmaInterrupt.index? Register.pbdmaCount offset).isSome

/-- Whether a register is the control word of a channel. -/
def controlsChannel (offset : Nat) : Bool :=
  Register.channelControl.base ≤ offset &&
    (offset - Register.channelControl.base) % Register.channelControl.stride = 0

/-- The hardware after a write. -/
def write (sim : Simulation) (offset : Nat) (value : UInt32) : Simulation :=
  match Register.runlistSubmit.index? Register.runlistCount offset with
  | some runlist => sim.submit runlist offset value
  | none =>
      if offset = Register.preempt then sim.requestPreempt value
      else if clearsOnWrite offset then sim.setWord offset (sim.word offset &&& ~~~value)
      else if offset = Register.unitEnable then sim.enableUnits value
      else if controlsChannel offset then
        sim.setWord offset (channelWord (sim.word offset) value)
      else sim.setWord offset value

/-- Hang the next submissions of a runlist. -/
def hangRunlist (sim : Simulation) (runlist : Nat) (mode : HangMode) : Simulation :=
  { sim with runlistHangs := sim.runlistHangs.insert runlist mode }

/-- Hang the next preempt requests. -/
def hangPreempt (sim : Simulation) (mode : HangMode) : Simulation :=
  { sim with preemptHang := some mode }

/-- The hardware with some bits of a register set. -/
def raiseBits (sim : Simulation) (offset : Nat) (bits : UInt32) : Simulation :=
  sim.setWord offset (sim.word offset ||| bits)

/-- Set the status word of an engine. -/
def setEngineStatus (sim : Simulation) (engine : Nat) (word : UInt32) :
    Except Failure Simulation := do
  return sim.setWord (← Register.engineStatus.slot engine) word

/-- Set the status word of a PBDMA. -/
def setPbdmaStatus (sim : Simulation) (pbdma : Nat) (word : UInt32) :
    Except Failure Simulation := do
  return sim.setWord (← Register.pbdmaStatus.slot pbdma) word

/-- Latch a memory fault, raise its interrupt and halt the scheduling. -/
def raiseFault (sim : Simulation) (faultId : Nat) (words : FaultWords) :
    Except Failure Simulation := do
  let sim := sim.setWord (← Register.faultInstance.slot faultId) words.inst
  let sim := sim.setWord (← Register.faultAddressLow.slot faultId) words.addressLow
  let sim := sim.setWord (← Register.faultAddressHigh.slot faultId) words.addressHigh
  let sim := sim.setWord (← Register.faultInfo.slot faultId) words.info
  let sim := sim.raiseBits Register.faultPending (← Checked.bit32 faultId)
  let sim := sim.raiseBits Register.interrupt Interrupt.memoryFault
  return sim.setWord Register.faultHalt 1

/-- Raise a scheduler error. -/
def raiseSchedulerError (sim : Simulation) (code : UInt32) : Simulation :=
  (sim.setWord Register.schedulerError code).raiseBits Register.interrupt Interrupt.schedulerError

/-- Raise interrupts of a PBDMA. -/
def raisePbdma (sim : Simulation) (pbdma : Nat) (bits : UInt32) : Except Failure Simulation := do
  let sim := sim.raiseBits (← Register.pbdmaInterrupt.slot pbdma) bits
  let sim := sim.raiseBits Register.pbdmaPending (← Checked.bit32 pbdma)
  return sim.raiseBits Register.interrupt Interrupt.pbdma

/-- The latest submission of a runlist. -/
def lastSubmission? (sim : Simulation) (runlist : Nat) : Option Submission :=
  sim.submissions.find? fun submission => submission.runlist = runlist

end Simulation

end GpuSched
