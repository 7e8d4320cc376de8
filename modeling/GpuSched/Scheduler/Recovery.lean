import GpuSched.Scheduler.Update

/-!
# Recovery and interrupts

Recovery stops a context: the engines that run it are reset, its channels are marked faulted and
taken off their runlists. It is forced by a client, by a wait that ran out of time, or by an
interrupt. An interrupt is serviced bit by bit and acknowledged at the end.
-/
namespace GpuSched.Scheduler

/-- Take the channels of some targets off their runlists, without a wait. -/
def removeTargets (targets : List Target) : Operation Scheduler Unit :=
  targets.forM fun target => do
    ((← get).targetChannels target).forM fun id => do
      (updateRunlist (← channelAt id).runlist (some id) false false).disregard

/-- The fault bits of the engines that run a target. -/
def enginesOn (target : Target) : Operation Scheduler UInt32 := do
  let engines ← (← get).config.engines.filterM fun engine => do
    return decide ((← engineStatus engine.id).faulting = some target)
  maskOf (engines.map (·.faultId))

/-- Reset the engines that run a target and mark it faulted. A target that no engine runs is only
marked. -/
def recoverTarget (target : Target) (reason : FaultReason) : Operation Scheduler Unit := do
  let target := (← get).normalize target
  let faults ← enginesOn target
  let targets ←
    if faults = 0 then do
      pure (if ← markTargetFaulted target reason then [target] else [])
    else
      handleFaults (some { faults, target := some target, reason })
  removeTargets targets

/-- Recover a channel, or the whole group that it belongs to. -/
def recoverChannel (id : Nat) (reason : FaultReason) : Operation Scheduler Unit := do
  if (← channel id).state = .free then
    Operation.refuse (.invalidChannel id)
  recoverTarget (.channel id) reason

/-- Recover a group. -/
def recoverGroup (id : Nat) (reason : FaultReason) : Operation Scheduler Unit := do
  let _ ← group id
  recoverTarget (.group id) reason

/-- Reset an engine and stop the context that it runs. -/
def recoverEngine (engine : Engine) (reason : FaultReason) : Operation Scheduler Unit := do
  let status ← engineStatus engine.id
  let faults ← maskOf [engine.faultId]
  removeTargets (← handleFaults (some { faults, target := status.faulting, reason }))

/-- Recover the engines that do not finish a context switch. -/
def handleSchedulerError : Operation Scheduler Unit := do
  if (← onBus Device.schedulerErrorCode) = Register.switchTimeoutCode then
    (← get).config.engines.forM fun engine => do
      let status ← engineStatus engine.id
      if status.busy && status.context.switching then
        let faults ← maskOf [engine.faultId]
        removeTargets (← handleFaults (some {
          faults, target := status.faulting, reason := .switchTimeout }))

/-- Service the interrupt of one PBDMA: acknowledge it and, if its command stream is unusable,
recover the context on it. -/
def handlePbdma (pbdma : Nat) : Operation Scheduler Unit := do
  let interrupts ← onBus (Device.pbdmaInterrupts pbdma)
  onBus (Device.clearPbdmaInterrupts pbdma interrupts)
  if interrupts &&& Register.pbdmaDeviceMask ≠ 0 then
    match (← pbdmaStatus pbdma).resident with
    | some target => recoverTarget target (.pbdma pbdma interrupts)
    | none => pure ()

/-- Service the PBDMA units with a pending interrupt. -/
def handlePbdmas : Operation Scheduler Unit := do
  let pending ← onBus Device.pendingPbdmas
  (Simulation.setBits pending).forM handlePbdma
  onBus (Device.clearPbdmas pending)

/-- Post an event to a channel. -/
def notify (id : Nat) : Operation Scheduler Unit := do
  let events ← Checked.add64 (← channelAt id).events 1
  changeChannel id ({ · with events })

/-- Post an event to every channel that is in use. -/
def notifyAll : Operation Scheduler Unit := do
  let scheduler ← get
  (List.range scheduler.channels.size).forM fun id => do
    if (← channelAt id).state ≠ .free then
      notify id

/-- The bits of a status word that have a handler. -/
def handledBits (status : UInt32) : UInt32 := status &&& Interrupt.handledMask

/-- Service the interrupts of a status word and acknowledge them all. The answer is the bits
that have a handler. -/
def handleInterrupts (status : UInt32) : Operation Scheduler UInt32 := do
  if status &&& Interrupt.schedulerError ≠ 0 then
    handleSchedulerError
  if status &&& Interrupt.memoryFault ≠ 0 then
    removeTargets (← handleFaults none)
  if status &&& Interrupt.pbdma ≠ 0 then
    handlePbdmas
  if status &&& Interrupt.channel ≠ 0 then
    notifyAll
  onBus (Device.clearInterrupts status)
  return handledBits status

/-- Service the interrupts that are pending. -/
def serviceInterrupts : Operation Scheduler UInt32 := do
  let status ← onBus Device.interrupts
  if status = 0 then
    return 0
  handleInterrupts status

end GpuSched.Scheduler
