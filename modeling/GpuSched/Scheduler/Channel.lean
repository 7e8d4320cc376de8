import GpuSched.Scheduler.Group
import GpuSched.Scheduler.Recovery

/-!
# Life of a channel

A channel is bound to a slot, shared by counted references, and released with the last of them:
it leaves its runlist, resets that waited for it are run, it leaves its group, the hardware
forgets it, and its slot can be bound again.
-/
namespace GpuSched.Scheduler

/-- What a channel is bound to. -/
structure Binding where
  runlist : Nat
  /-- The slot to use, instead of the least one that is free. -/
  slot : Option Nat := none
  /-- The address space of the context. -/
  space : Option Nat := none
  /-- Physical address of the instance block, zero for none. -/
  instancePhysical : Nat := 0
  deriving DecidableEq, Repr

/-- Take a slot out of the pool: the one asked for, or the least one. -/
def takeSlot (slot : Option Nat) : Operation Scheduler Nat := do
  match slot with
  | some id =>
      let _ ← channel id
      if !(← get).freeChannels.contains id then
        Operation.refuse (.channelBusy id)
      modify fun scheduler => { scheduler with freeChannels := scheduler.freeChannels.erase id }
      return id
  | none =>
      let (id, freeChannels) ← takeFirst (← get).freeChannels
      modify ({ · with freeChannels })
      return id

/-- Bind a channel and answer its number; one reference to it is held. -/
def bind (binding : Binding) : Operation Scheduler Nat := do
  let _ ← runlist binding.runlist
  let id ← takeSlot binding.slot
  changeChannel id fun _ => {
    references := 1, state := .bound, runlist := binding.runlist, space := binding.space,
    instancePhysical := binding.instancePhysical }
  onBus (Device.bindChannel id binding.instancePhysical)
  return id

/-- Take a reference to a channel that has one. -/
def retain (id : Nat) : Operation Scheduler Unit := do
  let channel ← channel id
  if channel.references = 0 then
    Operation.refuse (.invalidChannel id)
  if channel.references = 0xffffffff then
    Operation.abort .overflow
  changeChannel id ({ · with references := channel.references + 1 })

/-- Take a reference beside one that is held. The count wraps around. -/
def duplicate (id : Nat) : Operation Scheduler Unit :=
  changeChannel id fun channel => { channel with references := channel.references + 1 }

/-- Release a channel to which no reference is held. -/
def releaseChannel (id : Nat) : Operation Scheduler Unit := do
  let channel ← channelAt id
  (updateRunlist channel.runlist (some id) false true).disregard
  runDeferredResets id channel.group
  if let some group := channel.group then
    removeMember id group
  onBus (Device.disableChannel id)
  onBus (Device.unbindChannel id)
  changeChannel id Channel.reset
  modify fun scheduler => { scheduler with freeChannels := scheduler.freeChannels.insert id () }

/-- Give a reference back; the last one releases the channel. -/
def drop (id : Nat) : Operation Scheduler Unit := do
  let channel ← channelAt id
  changeChannel id ({ · with references := channel.references - 1 })
  if channel.references = 0 then
    Operation.abort (.referenceUnderflow id)
  if channel.references = 1 then
    releaseChannel id

/-- Let the hardware take commands of a channel. -/
def enableChannel (id : Nat) : Operation Scheduler Unit := do
  if (← channelAt id).state = .faulted then
    Operation.refuse (.channelFaulted id)
  onBus (Device.enableChannel id)

/-- Stop the hardware from taking commands of a channel. -/
def disableChannel (id : Nat) : Operation Scheduler Unit := onBus (Device.disableChannel id)

/-- Whether the hardware takes commands of a channel. -/
def channelEnabled (id : Nat) : Operation Scheduler Bool := onBus (Device.channelEnabled id)

/-- Clear the fault of a channel. It is bound then, off its runlist. -/
def acknowledgeFault (id : Nat) : Operation Scheduler Unit := do
  let channel ← channelAt id
  if channel.state ≠ .faulted then
    conflict (.notFaulted id channel.state)
  updateRunlist channel.runlist (some id) false false
  changeChannel id ({ · with state := .bound, fault := none })

/-- The state of a slot. -/
def channelState (id : Nat) : Operation Scheduler ChannelState := do
  return (← channel id).state

/-- What ends a wait for an event. -/
inductive Waker where
  /-- The event is posted to the channel. -/
  | notification
  /-- The channel interrupt posts it to every channel. -/
  | interrupt
  /-- The channel is recovered. -/
  | recovery
  deriving DecidableEq, Repr

/-- What a waiter that saw `seen` events finds: a fault of the channel, a new event, or neither
by the end of its time. -/
def waitOutcome (id seen : Nat) : Operation Scheduler Unit := do
  let channel ← channelAt id
  if channel.state = .faulted then
    Operation.refuse (.channelFaulted id)
  if channel.events = seen then
    Operation.refuse .waitTimeout

/-- Wait for an event up to a timeout, in which none is posted. -/
def waitEvent (id timeout : Nat) : Operation Scheduler Unit := do
  if !(← get).clock.tells timeout then
    Operation.abort .overflow
  waitOutcome id (← channelAt id).events

/-- Wait for an event until a waker has run. -/
def waitWoken (id : Nat) (waker : Waker) : Operation Scheduler Unit := do
  let seen := (← channelAt id).events
  match waker with
  | .notification => notify id
  | .interrupt => let _ ← handleInterrupts Interrupt.channel
  | .recovery => (recoverChannel id .forced).disregard
  waitOutcome id seen

end GpuSched.Scheduler
