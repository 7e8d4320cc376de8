import GpuSched.Scheduler.Recovery

/-!
# Preemption and activity of engines

A preempt asks the hardware to stop a context. An engine is quieted by disabling its runlist and
preempting what its PBDMA and the engine itself run. What does not stop in time is recovered, and
the request is refused.
-/
namespace GpuSched.Scheduler

/-- Preempt a target; if that takes too long, recover it. -/
def preemptTarget (target : Target) : Operation Scheduler Unit := do
  onBus (Device.issuePreempt target)
  let done ← waitFor (← get).config.poll.preemptTimeout (not <$> Device.preemptPending)
  if !done then
    recoverTarget target .idleTimeout
    Operation.refuse (.preemptFailed target)

/-- Preempt a channel. -/
def preemptChannel (id : Nat) : Operation Scheduler Unit := do
  if (← channel id).state = .free then
    Operation.refuse (.invalidChannel id)
  preemptTarget (.channel id)

/-- Preempt a group. -/
def preemptGroup (id : Nat) : Operation Scheduler Unit := do
  let _ ← group id
  preemptTarget (.group id)

/-- Whether an engine is idle. -/
def engineIdle (id : Nat) : Operation Bus Bool := do
  return !(UnitStatus.decode (← Device.engineStatus id)).busy

/-- Wait for an engine to be idle; if that takes too long, recover it. -/
def waitEngineIdle (id : Nat) : Operation Scheduler Unit := do
  let engine ← engine id
  let idle ← waitFor (← get).config.poll.idleTimeout (engineIdle engine.id)
  if !idle then
    recoverEngine engine .idleTimeout
    Operation.refuse (.engineIdleFailed engine.id)

/-- Preempt what an engine and its PBDMA run, and wait for the engine if asked to. -/
def quiesce (engine : Engine) (waitIdle : Bool) : Operation Scheduler Unit := do
  let fetching := (← pbdmaStatus engine.pbdma).resident
  if let some target := fetching then
    preemptTarget target
  let running := (← engineStatus engine.id).resident
  if let some target := running then
    if some target ≠ fetching then
      preemptTarget target
  if waitIdle then
    waitEngineIdle engine.id

/-- Set or clear the disable bit of the runlist of an engine. -/
def setEngineDisabled (engine : Engine) (disabled : Bool) : Operation Scheduler Unit := do
  setSchedulerDisabled (← maskOf [engine.runlist]) disabled

/-- Disable the runlist of an engine and stop what the engine runs. A busy engine is refused
unless its end of work is to be waited for. After a failure the runlist is enabled again. -/
def disableEngine (id : Nat) (waitIdle : Bool) : Operation Scheduler Unit := do
  let engine ← engine id
  if (← engineStatus engine.id).busy && !waitIdle then
    Operation.refuse (.engineBusy engine.id)
  setEngineDisabled engine true
  match ← (quiesce engine waitIdle).attempt with
  | .ok () => pure ()
  | .error error =>
      setEngineDisabled engine false
      Operation.refuse error

/-- Enable the runlist of an engine. -/
def enableEngine (id : Nat) : Operation Scheduler Unit := do
  setEngineDisabled (← engine id) false

/-- Disable engines one after the other; if one fails, enable those before it again. -/
def disableEngines (waitIdle : Bool) :
    List Nat → (disabled : List Nat) → Operation Scheduler Unit
  | [], _ => pure ()
  | id :: ids, disabled => do
      match ← (disableEngine id waitIdle).attempt with
      | .ok () => disableEngines waitIdle ids (id :: disabled)
      | .error error =>
          disabled.reverse.forM fun id => (enableEngine id).disregard
          Operation.refuse error

/-- Disable every engine, or none. -/
def disableAllEngines (waitIdle : Bool) : Operation Scheduler Unit := do
  disableEngines waitIdle ((← get).config.engines.map (·.id)) []

/-- Enable every engine. -/
def enableAllEngines : Operation Scheduler Unit := do
  (← get).config.engines.forM fun engine => enableEngine engine.id

end GpuSched.Scheduler
