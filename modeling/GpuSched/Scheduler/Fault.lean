import GpuSched.Scheduler.State

/-!
# Faults

Every recovery comes down to servicing faults, reported by the hardware or forced by software.
For each fault the engine is reset and the context it ran is marked faulted, a channel of a group
together with its group. A graphics engine whose context is being debugged keeps its state: its
reset is put off until the context is released, and its runlist stays disabled so long.
-/
namespace GpuSched

/-- A recovery that software asks for. -/
structure ForcedFault where
  /-- The fault bits of the engines to recover. -/
  faults : UInt32
  /-- The context to blame, if it is known. -/
  target : Option Target
  reason : FaultReason
  deriving DecidableEq, Repr

namespace Scheduler

/-- The live channel whose instance block a fault names. Channels without an instance block are
never named. -/
def channelByInstance? (scheduler : Scheduler) (inst : UInt32) : Option Nat :=
  let wanted := inst &&& Register.instancePageMask
  scheduler.channels.findIdx? fun channel =>
    channel.state ≠ .free && channel.instancePhysical ≠ 0 &&
      Device.instancePointer channel.instancePhysical = wanted

/-- The context that the instance pointer of a fault names. -/
def faultOwner? (scheduler : Scheduler) (inst : UInt32) : Option Target :=
  (scheduler.channelByInstance? inst).map fun id => scheduler.normalize (.channel id)

/-- Mark a live channel faulted; the answer is whether it is live. -/
def markFaulted (id : Nat) (reason : FaultReason) : Operation Scheduler Bool := do
  match (← get).channels[id]? with
  | none => return false
  | some channel =>
      if channel.state = .free then
        return false
      else
        changeChannel id ({ · with state := .faulted, fault := some reason })
        return true

/-- Mark each live channel of a target faulted; the answer is whether there is one. -/
def markTargetFaulted (target : Target) (reason : FaultReason) : Operation Scheduler Bool := do
  let channels := (← get).targetChannels target
  channels.foldlM (fun any id => do return (← markFaulted id reason) || any) false

/-- Pulse an engine through reset. -/
def resetEngine (engine : Engine) : Operation Scheduler Unit :=
  onBus (Device.resetUnit engine.reset)

/-- Whether the reset after a fault has to wait for the release of its context. -/
def defersReset (scheduler : Scheduler) (engine : Engine) (fault : MemoryFault)
    (target : Target) : Bool :=
  engine.kind = .graphics && fault.fromCluster &&
    scheduler.config.deferPolicy = .debugSessions && target ∈ scheduler.attached

/-- Reset an engine after a fault, or put its reset off. -/
def resetAfterFault (engine : Engine) (fault : MemoryFault) (forced : Bool)
    (target : Option Target) : Operation Scheduler Unit := do
  let scheduler ← get
  match target.filter fun target => !forced && scheduler.defersReset engine fault target with
  | some target =>
      modify fun scheduler =>
        { scheduler with deferred := scheduler.deferred ++ [⟨engine.id, target⟩] }
  | none => resetEngine engine

/-- Service one fault, after faults that were blamed on some targets. -/
def serviceFault (forced : Option ForcedFault) (faultId : Nat) (targets : List Target) :
    Operation Scheduler (List Target) := do
  let words ← match forced with
    | some _ => pure {}
    | none => onBus (Device.faultWords faultId)
  let fault := MemoryFault.decode faultId words
  match (← get).config.engines.find? (·.faultId = faultId) with
  | none => return targets
  | some engine =>
      let status ← engineStatus engine.id
      let scheduler ← get
      let resolved := match forced with
        | some forced => forced.target
        | none => scheduler.faultOwner? words.inst
      let target := (resolved <|> status.faulting).map scheduler.normalize
      let reason := ((forced.map (·.reason)).getD (.memoryFault fault))
      resetAfterFault engine fault forced.isSome target
      match target with
      | none => return targets
      | some target =>
          let marked ← markTargetFaulted target reason
          return if marked && !targets.contains target then targets ++ [target] else targets

/-- The runlists that a waiting reset keeps disabled. -/
def deferredRunlists (scheduler : Scheduler) : Except Failure UInt32 :=
  maskOf ((scheduler.config.engines.filter fun engine =>
    scheduler.deferred.any (·.engine = engine.id)).map (·.runlist))

/-- Service the faults that the hardware reports, or a forced one, with the runlists of their
engines disabled. The answer is the targets that were marked faulted. -/
def handleFaults (forced : Option ForcedFault) : Operation Scheduler (List Target) := do
  let mask ← match forced with
    | some forced => pure forced.faults
    | none => onBus Device.pendingFaults
  if mask = 0 then
    return []
  let engines ← (← get).config.engines.filterM fun engine => hasBit mask engine.faultId
  let runlists ← maskOf (engines.map (·.runlist))
  setSchedulerDisabled runlists true
  let targets ← (Simulation.setBits mask).foldlM
    (fun targets faultId => serviceFault forced faultId targets) []
  if forced.isNone then
    onBus (Device.clearFaults mask)
    onBus Device.resumeAfterFault
  let held ← (← get).deferredRunlists
  setSchedulerDisabled (runlists &&& ~~~held) false
  return targets

/-- Force a fault of each engine of a runlist whose update was not picked up. The targets are
only marked; the caller takes them off the runlist. -/
def recoverRunlistEngines (runlist : Nat) : Operation Scheduler (List Target) := do
  let engines := (← get).config.engines.filter (·.runlist = runlist)
  let faults ← maskOf (engines.map (·.faultId))
  handleFaults (some { faults, target := none, reason := .runlistTimeout })

/-- Reset the engines whose resets wait for a channel or its group, and enable their runlists
unless another reset keeps them disabled. -/
def runDeferredResets (channel : Nat) (group : Option Nat) : Operation Scheduler Unit := do
  let scheduler ← get
  let due := scheduler.deferred.filter fun reset =>
    reset.target = .channel channel || some reset.target = group.map .group
  if due.isEmpty then
    return
  let engines := due.flatMap fun reset =>
    scheduler.config.engines.filter (·.id = reset.engine)
  engines.forM resetEngine
  let runlists ← maskOf (engines.map (·.runlist))
  modify fun scheduler =>
    { scheduler with deferred := scheduler.deferred.filter (!due.contains ·) }
  let held ← (← get).deferredRunlists
  setSchedulerDisabled (runlists &&& ~~~held) false

end Scheduler

end GpuSched
