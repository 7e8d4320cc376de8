import GpuSched.Register.Bus

/-!
# Operations of the host interface

What the scheduler asks of the hardware, as register accesses: hand over a runlist, request a
preempt, stop and resume the scheduling of runlists, pulse a unit through reset, read status and
fault registers, acknowledge interrupts, and bind and enable channels.
-/
namespace GpuSched.Device

open Register Bus

/-- Hand a list of `count` entries to a runlist. An empty list leaves the base registers alone. -/
def submitRunlist (runlist base count : Nat) : Operation Bus Unit := do
  if count ≠ 0 then
    let page := base / pageSize
    writeSlot runlistBaseLow runlist (UInt32.ofNat page)
    writeSlot runlistBaseHigh runlist (UInt32.ofNat (page / Checked.limit32))
  writeSlot runlistSubmit runlist (UInt32.ofNat count &&& entryCountMask)

/-- Whether the hardware still has to pick up the list of a runlist. -/
def runlistPending (runlist : Nat) : Operation Bus Bool := do
  return (← readSlot runlistStatus runlist) &&& runlistPendingBit != 0

/-- The word that requests a preempt. -/
def preemptWord (target : Target) : UInt32 :=
  (UInt32.ofNat target.id &&& preemptIdMask) ||| (if target.isGroup then preemptGroupBit else 0)

/-- Request that a target be preempted. -/
def issuePreempt (target : Target) : Operation Bus Unit := write preempt (preemptWord target)

/-- Whether the preempt request is still pending. -/
def preemptPending : Operation Bus Bool := do
  return (← read preempt) &&& preemptPendingBit != 0

/-- Set or clear the disable bits of some runlists. -/
def setSchedulerDisabled (runlists : UInt32) (disabled : Bool) : Operation Bus Unit := do
  let current ← read schedulerDisable
  write schedulerDisable (if disabled then current ||| runlists else current &&& ~~~runlists)

/-- The disable bits of the runlists. -/
def schedulerDisabled : Operation Bus UInt32 := read schedulerDisable

/-- Let the hardware schedule again after it halted on a fault. -/
def resumeAfterFault : Operation Bus Unit := do
  write faultHalt (← read faultHalt)

/-- Hold a unit in reset for the time of one read. -/
def resetUnit (unit : Nat) : Operation Bus Unit := do
  let mask ← Checked.bit32 unit
  let current ← read unitEnable
  write unitEnable (current &&& ~~~mask)
  let _ ← read unitEnable
  write unitEnable (current ||| mask)

/-- The status word of an engine. -/
def engineStatus (engine : Nat) : Operation Bus UInt32 := readSlot Register.engineStatus engine

/-- The status word of a PBDMA. -/
def pbdmaStatus (pbdma : Nat) : Operation Bus UInt32 := readSlot Register.pbdmaStatus pbdma

/-- The fault numbers with a pending fault. -/
def pendingFaults : Operation Bus UInt32 := read faultPending

/-- Acknowledge pending faults. -/
def clearFaults (mask : UInt32) : Operation Bus Unit := write faultPending mask

/-- The latched words of a fault. -/
def faultWords (faultId : Nat) : Operation Bus FaultWords := do
  let inst ← readSlot faultInstance faultId
  let addressLow ← readSlot faultAddressLow faultId
  let addressHigh ← readSlot faultAddressHigh faultId
  let info ← readSlot faultInfo faultId
  return { inst, addressLow, addressHigh, info }

/-- The code of the scheduler error. -/
def schedulerErrorCode : Operation Bus UInt32 := read schedulerError

/-- The PBDMA units with a pending interrupt. -/
def pendingPbdmas : Operation Bus UInt32 := read pbdmaPending

/-- The pending interrupts of a PBDMA. -/
def pbdmaInterrupts (pbdma : Nat) : Operation Bus UInt32 := readSlot pbdmaInterrupt pbdma

/-- Acknowledge interrupts of a PBDMA. -/
def clearPbdmaInterrupts (pbdma : Nat) (bits : UInt32) : Operation Bus Unit :=
  writeSlot pbdmaInterrupt pbdma bits

/-- Acknowledge PBDMA units. -/
def clearPbdmas (mask : UInt32) : Operation Bus Unit := write pbdmaPending mask

/-- The pending top-level interrupts. -/
def interrupts : Operation Bus UInt32 := read interrupt

/-- Choose the top-level interrupts that are reported. -/
def enableInterrupts (mask : UInt32) : Operation Bus Unit := write interruptEnable mask

/-- Acknowledge top-level interrupts. -/
def clearInterrupts (bits : UInt32) : Operation Bus Unit := write interrupt bits

/-- The instance pointer of an instance block at a physical address. -/
def instancePointer (physical : Nat) : UInt32 :=
  UInt32.ofNat (physical / pageSize) &&& instancePageMask

/-- Bind an instance block to a channel. -/
def bindChannel (channel physical : Nat) : Operation Bus Unit :=
  writeSlot channelInstance channel (instancePointer physical ||| instanceBindBit)

/-- Remove the instance block of a channel. -/
def unbindChannel (channel : Nat) : Operation Bus Unit := writeSlot channelInstance channel 0

/-- Enable a channel. -/
def enableChannel (channel : Nat) : Operation Bus Unit := do
  writeSlot channelControl channel ((← readSlot channelControl channel) ||| channelEnableSet)

/-- Disable a channel. -/
def disableChannel (channel : Nat) : Operation Bus Unit := do
  writeSlot channelControl channel ((← readSlot channelControl channel) ||| channelEnableClear)

/-- Whether a channel is enabled. -/
def channelEnabled (channel : Nat) : Operation Bus Bool := do
  return (← readSlot channelControl channel) &&& channelEnableBit != 0

end GpuSched.Device
