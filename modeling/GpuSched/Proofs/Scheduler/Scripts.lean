import GpuSched.Proofs.Scheduler.Idling
import GpuSched.Proofs.Scheduler.Sessions

/-!
# What a request comes down to

A script spells a request out as a sequence of steps: idle steps, the service of faults, updates
that take a channel off its runlist, and the few steps that are peculiar to some requests. Carrying
out the script of a request is carrying out the request, so what every step respects, every request
respects, and what is done in the course of a request can be told from its script.
-/
namespace GpuSched

open Operation

/-- A step that only some requests take. -/
inductive Act : Type → Type 1 where
  /-- An update that a client asks for. -/
  | update (runlist : Nat) (id : Option Nat) (add wait : Bool) : Act Unit
  /-- A channel is taken off a runlist, and the hardware is waited for. -/
  | withdraw (runlist id : Nat) : Act Unit
  /-- The runlist of an engine is disabled or enabled. -/
  | switch (engine : Engine) (disabled : Bool) : Act Unit
  /-- The resets that waited for a channel are run. -/
  | resets (id : Nat) (group : Option Nat) : Act Unit
  /-- Who is bound, grouped and attached changes. -/
  | alter {α : Type} (operation : Operation Scheduler α)
      (alters : Respects Scheduler.Alters operation) : Act α
  /-- Something happens on the side of the hardware. -/
  | event (injection : Injection) : Act Unit

namespace Act

variable {α : Type}

/-- Something happens on the side of the hardware. -/
def inject (event : Injection) : Operation Scheduler Unit := do
  let bus := (← get).machine.bus
  let hardware ← bus.hardware.inject event
  modify fun scheduler =>
    { scheduler with machine := { scheduler.machine with bus := { bus with hardware } } }

/-- An event changes the hardware alone, if it is possible at all. -/
theorem state_inject (event : Injection) (scheduler : Scheduler) :
    (inject event scheduler).2 =
      match scheduler.machine.bus.hardware.inject event with
      | .ok hardware =>
          { scheduler with machine :=
              { scheduler.machine with bus := { scheduler.machine.bus with hardware } } }
      | .error _ => scheduler := by
  have runs : inject event scheduler = (do
      let hardware ← scheduler.machine.bus.hardware.inject event
      modify fun after => { after with machine :=
        { after.machine with bus := { scheduler.machine.bus with hardware } } } :
      Operation Scheduler Unit) scheduler := rfl
  rw [runs]
  cases scheduler.machine.bus.hardware.inject event with
  | error failure => rfl
  | ok hardware => rfl

/-- An event respects what relates states that differ in their hardware alone. -/
theorem respects_inject {related : Scheduler → Scheduler → Prop} [Std.Refl related]
    (differs : ∀ (scheduler : Scheduler) (hardware : Simulation), related scheduler
      { scheduler with machine :=
          { scheduler.machine with bus := { scheduler.machine.bus with hardware } } })
    (event : Injection) : Respects related (inject event) := by
  intro scheduler
  rw [state_inject]
  cases scheduler.machine.bus.hardware.inject event with
  | error failure => exact Std.Refl.refl _
  | ok hardware => exact differs scheduler hardware

/-- Carry out a step. -/
def run : Act α → Operation Scheduler α
  | .update list id add wait => Scheduler.updateRunlist list id add wait
  | .withdraw list id => Scheduler.updateRunlist list (some id) false true
  | .switch engine disabled => Scheduler.setEngineDisabled engine disabled
  | .resets id group => Scheduler.runDeferredResets id group
  | .alter operation _ => operation
  | .event injection => inject injection

end Act

/-- A sequence of steps, each of which may rest on the answers of those before it. Beside what
recovery does it takes only acts that are allowed. -/
inductive Script (allowed : (α : Type) → Act α → Prop) : Type → Type 1 where
  | idle {α : Type} (operation : Operation Scheduler α)
      (idles : Respects Scheduler.Idles operation) : Script allowed α
  | faults (forced : Option ForcedFault) : Script allowed (List Target)
  /-- A channel is taken off a runlist, and the hardware is not waited for. -/
  | remove (runlist id : Nat) : Script allowed Unit
  | act {α : Type} (step : Act α) (isAllowed : allowed α step) : Script allowed α
  | bind {α β : Type} (first : Script allowed α) (next : α → Script allowed β) : Script allowed β
  | attempt {α : Type} (script : Script allowed α) : Script allowed (Except Error α)

namespace Script

variable {allowed : (α : Type) → Act α → Prop} {α β : Type}

instance : Monad (Script allowed) where
  pure value := .idle (pure value) (respects_pure value)
  bind := .bind

/-- Carry out a script. -/
def run {α : Type} : Script allowed α → Operation Scheduler α
  | idle operation _ => operation
  | faults forced => Scheduler.handleFaults forced
  | remove list id => Scheduler.updateRunlist list (some id) false false
  | act step _ => step.run
  | bind first next => first.run >>= fun value => (next value).run
  | attempt script => script.run.attempt

/-- A script whose refusal is of no consequence. -/
def disregard (script : Script allowed α) : Script allowed Unit := do
  let _ ← script.attempt

/-- Read what leaves the scheduler as it is. -/
def read (operation : Operation Scheduler α) (reads : Scheduler.Reads operation) :
    Script allowed α :=
  .idle operation reads.respects

/-- Read the state. -/
def state : Script allowed Scheduler := .idle get respects_get

/-- Use a result computed beside the state. -/
def ofExcept (result : Except Failure α) : Script allowed α :=
  .idle (liftM result) (respects_lift result)

/-- Refuse the request. -/
def refuse (error : Error) : Script allowed α :=
  .idle (Operation.refuse error) (respects_refuse error)

/-- Drive the hardware. -/
def bus (operation : Operation Bus α) (idles : Respects Bus.Idles operation) : Script allowed α :=
  .idle (Scheduler.onBus operation) (Scheduler.idles_onBus idles)

@[simp] theorem run_pure (value : α) : (pure value : Script allowed α).run = pure value := rfl

@[simp] theorem run_bind (first : Script allowed α) (next : α → Script allowed β) :
    (first >>= next).run = first.run >>= fun value => (next value).run := rfl

@[simp] theorem run_ite (condition : Prop) [Decidable condition] (one two : Script allowed α) :
    (if condition then one else two).run = if condition then one.run else two.run := by
  split <;> rfl

/-- A loop over a list. -/
theorem run_forM {γ : Type} (list : List γ) (body : γ → Script allowed PUnit) :
    (list.forM body).run = list.forM fun item => (body item).run := by
  induction list with
  | nil => rfl
  | cons item rest ih => exact congrArg ((body item).run >>= ·) (funext fun _ => ih)

/-- The steps of recovery respect a relation. -/
structure Recovers (related : Scheduler → Scheduler → Prop) : Prop where
  idles : ∀ before after, Scheduler.Idles before after → related before after
  faults : ∀ forced, Respects related (Scheduler.handleFaults forced)
  removes : ∀ list id, Respects related (Scheduler.updateRunlist list (some id) false false)

/-- What recovery and the acts of a script respect, the script respects. -/
theorem respects {related : Scheduler → Scheduler → Prop} [IsPreorder Scheduler related]
    (recovers : Recovers related)
    (acts : ∀ (α : Type) (step : Act α), allowed α step → Respects related step.run)
    (script : Script allowed α) : Respects related script.run := by
  induction script with
  | idle operation idles => exact idles.mono recovers.idles
  | faults forced => exact recovers.faults forced
  | remove list id => exact recovers.removes list id
  | act step isAllowed => exact acts _ step isAllowed
  | bind first next one two => exact one.bind two
  | attempt script ih => exact ih.attempt

/-- All faults that are serviced in the course of a script are forced. -/
def Forces {α : Type} : Script allowed α → Prop
  | idle .. => True
  | faults forced => forced.isSome = true
  | remove .. => True
  | act .. => True
  | bind first next => first.Forces ∧ ∀ value, (next value).Forces
  | attempt script => script.Forces

/-- What the service of forced faults and the other steps respect, a script respects that services
no others. -/
theorem respects_of_forces {related : Scheduler → Scheduler → Prop} [IsPreorder Scheduler related]
    (idles : ∀ before after, Scheduler.Idles before after → related before after)
    (faults : ∀ forced, Respects related (Scheduler.handleFaults (some forced)))
    (removes : ∀ list id, Respects related (Scheduler.updateRunlist list (some id) false false))
    (acts : ∀ (α : Type) (step : Act α), allowed α step → Respects related step.run)
    {script : Script allowed α} (forces : script.Forces) : Respects related script.run := by
  induction script with
  | idle operation isIdle => exact isIdle.mono idles
  | faults forced =>
    obtain ⟨fault, rfl⟩ := Option.isSome_iff_exists.mp forces
    exact faults fault
  | remove list id => exact removes list id
  | act step isAllowed => exact acts _ step isAllowed
  | bind first next one two => exact (one forces.1).bind fun value => two value (forces.2 value)
  | attempt script ih => exact (ih forces).attempt

/-- A script that goes on from another one. -/
theorem forces_bind {first : Script allowed α} {next : α → Script allowed β}
    (one : first.Forces) (two : ∀ value, (next value).Forces) : (first >>= next).Forces :=
  ⟨one, two⟩

/-- A loop over a list. -/
theorem forces_forM {γ : Type} (list : List γ) {body : γ → Script allowed PUnit}
    (each : ∀ item, (body item).Forces) : (list.forM body).Forces := by
  induction list with
  | nil => trivial
  | cons item rest ih => exact forces_bind (each item) fun _ => ih

/-- Channels of targets are taken off their runlists. -/
def removeTargets (targets : List Target) : Script allowed Unit :=
  targets.forM fun target => do
    ((← state).targetChannels target).forM fun id => do
      (remove (← read _ (Scheduler.reads_channelAt id)).runlist id).disregard

/-- A target is recovered. -/
def recoverTarget (target : Target) (reason : FaultReason) : Script allowed Unit := do
  let target := (← state).normalize target
  let onEngines ← idle _ (Scheduler.idles_enginesOn target)
  if onEngines = 0 then
    let any ← idle _ (Scheduler.idles_markTargetFaulted target reason)
    removeTargets (if any then [target] else [])
  else
    removeTargets (← faults (some { faults := onEngines, target := some target, reason }))

/-- A channel is recovered. -/
def recoverChannel (id : Nat) (reason : FaultReason) : Script allowed Unit := do
  if (← read _ (Scheduler.reads_channel id)).state = .free then
    refuse (.invalidChannel id)
  recoverTarget (.channel id) reason

/-- A group is recovered. -/
def recoverGroup (id : Nat) (reason : FaultReason) : Script allowed Unit := do
  let _ ← read _ (Scheduler.reads_group id)
  recoverTarget (.group id) reason

/-- A fault of an engine is forced. -/
def forceFault (engine : Engine) (target : Option Target) (reason : FaultReason) :
    Script allowed Unit := do
  let bit ← ofExcept (Scheduler.maskOf [engine.faultId])
  removeTargets (← faults (some { faults := bit, target, reason }))

/-- An engine is recovered. -/
def recoverEngine (engine : Engine) (reason : FaultReason) : Script allowed Unit := do
  let status ← idle _ (Scheduler.idles_engineStatus engine.id)
  forceFault engine status.faulting reason

/-- The engines that do not finish a context switch are recovered. -/
def handleSchedulerError : Script allowed Unit := do
  if (← bus _ (Bus.idles_read Register.schedulerError)) = Register.switchTimeoutCode then
    (← state).config.engines.forM fun engine => do
      let status ← idle _ (Scheduler.idles_engineStatus engine.id)
      if status.busy && status.context.switching then
        forceFault engine status.faulting .switchTimeout

/-- The interrupt of a PBDMA is serviced. -/
def handlePbdma (pbdma : Nat) : Script allowed Unit := do
  let interrupts ← bus _ (Bus.idles_readSlot Register.pbdmaInterrupt pbdma)
  bus _ (Device.idles_clearPbdmaInterrupts pbdma interrupts)
  if interrupts &&& Register.pbdmaDeviceMask ≠ 0 then
    match (← idle _ (Scheduler.idles_pbdmaStatus pbdma)).resident with
    | some target => recoverTarget target (.pbdma pbdma interrupts)
    | none => pure ()

/-- The interrupts of PBDMA units are serviced. -/
def handlePbdmas : Script allowed Unit := do
  let pending ← bus _ (Bus.idles_read Register.pbdmaPending)
  (Simulation.setBits pending).forM handlePbdma
  bus _ (Device.idles_clearPbdmas pending)

/-- The sources of an interrupt that stop contexts are serviced. -/
def stopSources (status : UInt32) : Script allowed Unit := do
  (if status &&& Interrupt.schedulerError ≠ 0 then handleSchedulerError else pure ())
  (if status &&& Interrupt.memoryFault ≠ 0 then faults none >>= removeTargets else pure ())
  (if status &&& Interrupt.pbdma ≠ 0 then handlePbdmas else pure ())

/-- The interrupts of a status word are serviced. -/
def handleInterrupts (status : UInt32) : Script allowed UInt32 := do
  stopSources status
  (if status &&& Interrupt.channel ≠ 0 then idle _ Scheduler.idles_notifyAll else pure ())
  bus _ (Device.idles_clearInterrupts status)
  return Scheduler.handledBits status

/-- The pending interrupts are serviced. -/
def serviceInterrupts : Script allowed UInt32 := do
  let status ← bus _ (Bus.idles_read Register.interrupt)
  if status = 0 then
    return 0
  handleInterrupts status

/-- A target is preempted. -/
def preemptTarget (target : Target) : Script allowed Unit := do
  bus _ (Device.idles_issuePreempt target)
  let timeout := (← state).config.poll.preemptTimeout
  let done ← idle _ (Scheduler.idles_waitFor timeout (Device.idles_preemptPending.map not))
  if !done then
    recoverTarget target .idleTimeout
    refuse (.preemptFailed target)

/-- A channel is preempted. -/
def preemptChannel (id : Nat) : Script allowed Unit := do
  if (← read _ (Scheduler.reads_channel id)).state = .free then
    refuse (.invalidChannel id)
  preemptTarget (.channel id)

/-- A group is preempted. -/
def preemptGroup (id : Nat) : Script allowed Unit := do
  let _ ← read _ (Scheduler.reads_group id)
  preemptTarget (.group id)

/-- An engine is asked whether it is idle. -/
theorem idles_engineIdle (engine : Nat) : Respects Bus.Idles (Scheduler.engineIdle engine) :=
  (Bus.idles_readSlot _ engine).bind fun _ => respects_pure _

/-- An engine is waited for. -/
def waitEngineIdle (id : Nat) : Script allowed Unit := do
  let engine ← read _ (Scheduler.reads_engine id)
  let timeout := (← state).config.poll.idleTimeout
  let isIdle ← idle _ (Scheduler.idles_waitFor timeout (idles_engineIdle engine.id))
  if !isIdle then
    recoverEngine engine .idleTimeout
    refuse (.engineIdleFailed engine.id)

/-- What an engine runs is stopped once the context on its PBDMA is. -/
def quiesceRunning (engine : Engine) (waitIdle : Bool) (fetching : Option Target) :
    Script allowed Unit := do
  let running := (← idle _ (Scheduler.idles_engineStatus engine.id)).resident
  if let some target := running then
    if some target ≠ fetching then
      preemptTarget target
  if waitIdle then
    waitEngineIdle engine.id

/-- What an engine and its PBDMA run is stopped. -/
def quiesce (engine : Engine) (waitIdle : Bool) : Script allowed Unit := do
  let fetching := (← idle _ (Scheduler.idles_pbdmaStatus engine.pbdma)).resident
  if let some target := fetching then
    preemptTarget target
  quiesceRunning engine waitIdle fetching

/-- A waiter waits until a waker has run. -/
def waitWoken (id : Nat) (waker : Scheduler.Waker) : Script allowed Unit := do
  let seen := (← read _ (Scheduler.reads_channelAt id)).events
  match waker with
  | .notification => idle _ (Scheduler.idles_notify id)
  | .interrupt => let _ ← handleInterrupts Interrupt.channel
  | .recovery => (recoverChannel id .forced).disregard
  read _ (Scheduler.reads_waitOutcome id seen)

/-- To take channels off their runlists services no faults. -/
theorem forces_removeTargets (targets : List Target) :
    (removeTargets targets : Script allowed Unit).Forces :=
  forces_forM targets fun _ => ⟨trivial, fun _ => forces_forM _ fun _ =>
    ⟨trivial, fun _ => ⟨trivial, fun _ => trivial⟩⟩⟩

/-- A target is recovered. -/
theorem forces_recoverTarget (target : Target) (reason : FaultReason) :
    (recoverTarget target reason : Script allowed Unit).Forces := by
  refine ⟨trivial, fun state => ⟨trivial, fun onEngines => ?_⟩⟩
  dsimp only
  split
  · exact ⟨trivial, fun _ => forces_removeTargets _⟩
  · exact ⟨rfl, fun _ => forces_removeTargets _⟩

/-- An engine is recovered. -/
theorem forces_recoverEngine (engine : Engine) (reason : FaultReason) :
    (recoverEngine engine reason : Script allowed Unit).Forces :=
  ⟨trivial, fun _ => ⟨trivial, fun _ => ⟨rfl, fun _ => forces_removeTargets _⟩⟩⟩

/-- A target is preempted. -/
theorem forces_preemptTarget (target : Target) :
    (preemptTarget target : Script allowed Unit).Forces := by
  refine ⟨trivial, fun _ => ⟨trivial, fun _ => ⟨trivial, fun done => ?_⟩⟩⟩
  dsimp only
  split
  · exact ⟨forces_recoverTarget target .idleTimeout, fun _ => trivial⟩
  · trivial

/-- An engine is waited for. -/
theorem forces_waitEngineIdle (id : Nat) : (waitEngineIdle id : Script allowed Unit).Forces := by
  refine ⟨trivial, fun engine => ⟨trivial, fun _ => ⟨trivial, fun isIdle => ?_⟩⟩⟩
  dsimp only
  split
  · exact ⟨forces_recoverEngine engine .idleTimeout, fun _ => trivial⟩
  · trivial

/-- An engine and its PBDMA are quieted. -/
theorem forces_quiesce (engine : Engine) (waitIdle : Bool) :
    (quiesce engine waitIdle : Script allowed Unit).Forces := by
  have waits : (if waitIdle then waitEngineIdle engine.id else pure () :
      Script allowed Unit).Forces := by
    split
    · exact forces_waitEngineIdle engine.id
    · trivial
  have stops : ∀ fetching, (quiesceRunning engine waitIdle fetching :
      Script allowed Unit).Forces := by
    refine fun fetching => ⟨trivial, fun status => ?_⟩
    dsimp only
    cases status.resident with
    | none => exact waits
    | some target =>
      dsimp only
      split
      · exact ⟨forces_preemptTarget target, fun _ => waits⟩
      · exact waits
  refine ⟨trivial, fun status => ?_⟩
  dsimp only
  cases status.resident with
  | none => exact stops none
  | some target => exact ⟨forces_preemptTarget target, fun _ => stops (some target)⟩

@[simp] theorem run_removeTargets (targets : List Target) :
    (removeTargets targets : Script allowed Unit).run = Scheduler.removeTargets targets := by
  unfold removeTargets Scheduler.removeTargets
  rw [run_forM]
  simp only [run_bind, run_forM]
  rfl

@[simp] theorem run_recoverTarget (target : Target) (reason : FaultReason) :
    (recoverTarget target reason : Script allowed Unit).run =
      Scheduler.recoverTarget target reason := by
  rw [Scheduler.recoverTarget_eq]
  unfold recoverTarget Scheduler.stopTarget
  simp only [run_bind, run_ite, run_removeTargets, pure_bind]
  rfl

@[simp] theorem run_recoverChannel (id : Nat) (reason : FaultReason) :
    (recoverChannel id reason : Script allowed Unit).run = Scheduler.recoverChannel id reason := by
  unfold recoverChannel Scheduler.recoverChannel
  simp only [run_bind, run_ite, run_recoverTarget]
  rfl

@[simp] theorem run_recoverGroup (id : Nat) (reason : FaultReason) :
    (recoverGroup id reason : Script allowed Unit).run = Scheduler.recoverGroup id reason := by
  unfold recoverGroup Scheduler.recoverGroup
  simp only [run_bind, run_recoverTarget]
  rfl

@[simp] theorem run_recoverEngine (engine : Engine) (reason : FaultReason) :
    (recoverEngine engine reason : Script allowed Unit).run =
      Scheduler.recoverEngine engine reason := by
  unfold recoverEngine forceFault Scheduler.recoverEngine
  simp only [run_bind, run_removeTargets]
  rfl

@[simp] theorem run_handleSchedulerError :
    (handleSchedulerError : Script allowed Unit).run = Scheduler.handleSchedulerError := by
  unfold handleSchedulerError forceFault Scheduler.handleSchedulerError
  simp only [run_bind, run_ite, run_forM, run_removeTargets]
  rfl

@[simp] theorem run_handlePbdma (pbdma : Nat) :
    (handlePbdma pbdma : Script allowed Unit).run = Scheduler.handlePbdma pbdma := by
  have stops : ∀ (resident : Option Target) (reason : FaultReason),
      (match resident with
        | some target => recoverTarget target reason
        | none => pure () : Script allowed Unit).run =
      match resident with
        | some target => Scheduler.recoverTarget target reason
        | none => pure () := by
    rintro (_ | target) reason
    · rfl
    · exact run_recoverTarget target reason
  unfold handlePbdma Scheduler.handlePbdma
  simp only [run_bind, run_ite, stops]
  rfl

@[simp] theorem run_handlePbdmas :
    (handlePbdmas : Script allowed Unit).run = Scheduler.handlePbdmas := by
  unfold handlePbdmas Scheduler.handlePbdmas
  simp only [run_bind, run_forM, run_handlePbdma]
  rfl

@[simp] theorem run_handleInterrupts (status : UInt32) :
    (handleInterrupts status : Script allowed UInt32).run = Scheduler.handleInterrupts status := by
  rw [Scheduler.handleInterrupts_eq]
  unfold handleInterrupts stopSources Scheduler.stopSources
  simp only [run_bind, run_ite, run_handleSchedulerError, run_handlePbdmas, run_removeTargets,
    run_pure]
  rfl

@[simp] theorem run_serviceInterrupts :
    (serviceInterrupts : Script allowed UInt32).run = Scheduler.serviceInterrupts := by
  unfold serviceInterrupts Scheduler.serviceInterrupts
  simp only [run_bind, run_ite, run_handleInterrupts]
  rfl

@[simp] theorem run_preemptTarget (target : Target) :
    (preemptTarget target : Script allowed Unit).run = Scheduler.preemptTarget target := by
  unfold preemptTarget Scheduler.preemptTarget
  simp only [run_bind, run_ite, run_recoverTarget]
  rfl

@[simp] theorem run_preemptChannel (id : Nat) :
    (preemptChannel id : Script allowed Unit).run = Scheduler.preemptChannel id := by
  unfold preemptChannel Scheduler.preemptChannel
  simp only [run_bind, run_ite, run_preemptTarget]
  rfl

@[simp] theorem run_preemptGroup (id : Nat) :
    (preemptGroup id : Script allowed Unit).run = Scheduler.preemptGroup id := by
  unfold preemptGroup Scheduler.preemptGroup
  simp only [run_bind, run_preemptTarget]
  rfl

@[simp] theorem run_waitEngineIdle (id : Nat) :
    (waitEngineIdle id : Script allowed Unit).run = Scheduler.waitEngineIdle id := by
  unfold waitEngineIdle Scheduler.waitEngineIdle
  simp only [run_bind, run_ite, run_recoverEngine]
  rfl

theorem run_quiesceRunning (engine : Engine) (waitIdle : Bool) (fetching : Option Target) :
    (quiesceRunning engine waitIdle fetching : Script allowed Unit).run =
      Scheduler.quiesceRunning engine waitIdle fetching := by
  unfold quiesceRunning Scheduler.quiesceRunning
  rw [run_bind]
  refine congrArg _ (funext fun status => ?_)
  cases status.resident with
  | none =>
    simp only [run_ite, run_waitEngineIdle, run_pure]
  | some target =>
    simp only [run_bind, run_ite, run_preemptTarget, run_waitEngineIdle, run_pure]

@[simp] theorem run_quiesce (engine : Engine) (waitIdle : Bool) :
    (quiesce engine waitIdle : Script allowed Unit).run = Scheduler.quiesce engine waitIdle := by
  unfold quiesce
  rw [run_bind]
  refine congrArg _ (funext fun status => ?_)
  cases status.resident with
  | none => exact run_quiesceRunning engine waitIdle none
  | some target =>
    rw [run_bind, run_preemptTarget]
    exact congrArg _ (funext fun _ => run_quiesceRunning engine waitIdle (some target))

@[simp] theorem run_waitWoken (id : Nat) (waker : Scheduler.Waker) :
    (waitWoken id waker : Script allowed Unit).run = Scheduler.waitWoken id waker := by
  unfold waitWoken Scheduler.waitWoken
  cases waker with
  | notification => rfl
  | interrupt =>
    simp only [run_bind, run_handleInterrupts]
    rfl
  | recovery =>
    have recovers : (recoverChannel id .forced : Script allowed Unit).disregard.run =
        (Scheduler.recoverChannel id .forced).disregard :=
      congrArg Operation.disregard (run_recoverChannel id .forced)
    simp only [run_bind, recovers]
    rfl

/-- The answer to a script whose own answer is of no interest. -/
def answering (script : Script allowed α) (reply : β) : Script allowed β := do
  let _ ← script
  return reply

/-- A changed answer. -/
def mapping (change : α → β) (script : Script allowed α) : Script allowed β := do
  return change (← script)

theorem run_answering (script : Script allowed α) (reply : β) :
    (script.answering reply).run = script.run *> pure reply := by
  rw [seqRight_eq_bind]
  rfl

theorem run_mapping (change : α → β) (script : Script allowed α) :
    (script.mapping change).run = change <$> script.run := by
  rw [← bind_pure_comp]
  rfl

section Switches

variable (switches : ∀ engine disabled, allowed Unit (.switch engine disabled))

/-- An engine is disabled. -/
def disableEngine (id : Nat) (waitIdle : Bool) : Script allowed Unit := do
  let engine ← read _ (Scheduler.reads_engine id)
  if (← idle _ (Scheduler.idles_engineStatus engine.id)).busy && !waitIdle then
    refuse (.engineBusy engine.id)
  act (.switch engine true) (switches engine true)
  match ← (quiesce engine waitIdle).attempt with
  | .ok () => pure ()
  | .error error =>
      act (.switch engine false) (switches engine false)
      refuse error

/-- An engine is enabled. -/
def enableEngine (id : Nat) : Script allowed Unit := do
  let engine ← read _ (Scheduler.reads_engine id)
  act (.switch engine false) (switches engine false)

/-- Engines are disabled one after the other. -/
def disableEngines (waitIdle : Bool) : List Nat → (disabled : List Nat) → Script allowed Unit
  | [], _ => pure ()
  | id :: ids, disabled => do
      match ← (disableEngine switches id waitIdle).attempt with
      | .ok () => disableEngines waitIdle ids (id :: disabled)
      | .error error =>
          disabled.reverse.forM fun id => (enableEngine switches id).disregard
          refuse error

@[simp] theorem run_disableEngine (id : Nat) (waitIdle : Bool) :
    (disableEngine switches id waitIdle).run = Scheduler.disableEngine id waitIdle := by
  unfold disableEngine Scheduler.disableEngine
  have outcomes : ∀ (engine : Engine) (outcome : Except Error Unit),
      (match outcome with
        | .ok () => pure ()
        | .error error => do
            act (.switch engine false) (switches engine false)
            refuse error : Script allowed Unit).run =
      (match outcome with
        | .ok () => pure ()
        | .error error => do
            Scheduler.setEngineDisabled engine false
            Operation.refuse error) := by
    rintro engine (error | _)
    · rfl
    · rfl
  have quiets : ∀ engine, (quiesce engine waitIdle : Script allowed Unit).attempt.run =
      (Scheduler.quiesce engine waitIdle).attempt :=
    fun engine => congrArg Operation.attempt (run_quiesce engine waitIdle)
  simp only [run_bind, run_ite, outcomes, quiets]
  rfl

@[simp] theorem run_disableEngines (waitIdle : Bool) (ids disabled : List Nat) :
    (disableEngines switches waitIdle ids disabled).run =
      Scheduler.disableEngines waitIdle ids disabled := by
  induction ids generalizing disabled with
  | nil => rfl
  | cons id rest ih =>
    have disables : (disableEngine switches id waitIdle).attempt.run =
        (Scheduler.disableEngine id waitIdle).attempt :=
      congrArg Operation.attempt (run_disableEngine switches id waitIdle)
    unfold disableEngines Scheduler.disableEngines
    rw [run_bind, disables]
    refine congrArg _ (funext fun outcome => ?_)
    cases outcome with
    | ok done => exact ih _
    | error error =>
      rw [run_bind, run_forM]
      rfl

/-- An engine is disabled. -/
theorem forces_disableEngine (id : Nat) (waitIdle : Bool) :
    (disableEngine switches id waitIdle).Forces := by
  refine ⟨trivial, fun engine => ⟨trivial, fun status => ?_⟩⟩
  have quiets : (do
      act (.switch engine true) (switches engine true)
      match ← (quiesce engine waitIdle).attempt with
      | .ok () => pure ()
      | .error error =>
          act (.switch engine false) (switches engine false)
          refuse error : Script allowed Unit).Forces := by
    refine ⟨trivial, fun _ => ⟨forces_quiesce engine waitIdle, ?_⟩⟩
    rintro (error | _)
    · exact ⟨trivial, fun _ => trivial⟩
    · trivial
  dsimp only
  split
  · exact ⟨trivial, fun _ => quiets⟩
  · exact quiets

/-- Engines are disabled one after the other. -/
theorem forces_disableEngines (waitIdle : Bool) (ids disabled : List Nat) :
    (disableEngines switches waitIdle ids disabled).Forces := by
  induction ids generalizing disabled with
  | nil => trivial
  | cons id rest ih =>
    refine ⟨forces_disableEngine switches id waitIdle, ?_⟩
    rintro (error | _)
    · exact ⟨forces_forM _ fun id => ⟨⟨trivial, fun _ => trivial⟩, fun _ => trivial⟩,
        fun _ => trivial⟩
    · exact ih _

end Switches

section Alters

variable (alters : ∀ (α : Type) (operation : Operation Scheduler α)
    (each : Respects Scheduler.Alters operation), allowed α (.alter operation each))

/-- Who is bound, grouped and attached changes. -/
def alter (operation : Operation Scheduler α) (each : Respects Scheduler.Alters operation) :
    Script allowed α :=
  act (.alter operation each) (alters α operation each)

/-- A fault is acknowledged. -/
def acknowledgeFault (id : Nat) : Script allowed Unit := do
  let channel ← read _ (Scheduler.reads_channelAt id)
  if channel.state ≠ .faulted then
    refuse (.invalidState (StateConflict.notFaulted id channel.state).message)
  remove channel.runlist id
  alter alters _ (Scheduler.alters_changeChannel id (fun _ impossible => by cases impossible) :
    Respects _ (Scheduler.changeChannel id ({ · with state := .bound, fault := none })))

theorem run_acknowledgeFault (id : Nat) :
    (acknowledgeFault alters id).run = Scheduler.acknowledgeFault id := by
  unfold acknowledgeFault Scheduler.acknowledgeFault
  simp only [run_bind, run_ite]
  rfl

section Withdraws

variable (withdraws : ∀ runlist id, allowed Unit (.withdraw runlist id))

/-- A channel leaves its group. -/
def leaveGroup (id : Nat) : Script allowed Unit := do
  let channel ← read _ (Scheduler.reads_channelAt id)
  match channel.group with
  | none => refuse (.invalidState (StateConflict.notGrouped id).message)
  | some groupId =>
      if channel.state = .active then
        act (.withdraw channel.runlist id) (withdraws channel.runlist id)
      alter alters _ (Scheduler.alters_removeMember id groupId)

theorem run_leaveGroup (id : Nat) :
    (leaveGroup alters withdraws id).run = Scheduler.leaveGroup id := by
  unfold leaveGroup Scheduler.leaveGroup
  rw [run_bind]
  refine congrArg _ (funext fun channel => ?_)
  cases channel.group with
  | none => rfl
  | some groupId =>
    simp only [run_bind, run_ite]
    rfl

variable (resets : ∀ id group, allowed Unit (.resets id group))

/-- A channel is released. -/
def releaseChannel (id : Nat) : Script allowed Unit := do
  let channel ← read _ (Scheduler.reads_channelAt id)
  (act (.withdraw channel.runlist id) (withdraws channel.runlist id)).disregard
  act (.resets id channel.group) (resets id channel.group)
  alter alters _ (Scheduler.alters_leaveSlot id channel.group)

/-- A reference is given back. -/
def drop (id : Nat) : Script allowed Unit := do
  let channel ← read _ (Scheduler.reads_channelAt id)
  idle _ (Scheduler.idles_countReferences id fun _ => channel.references - 1)
  if channel.references = 0 then
    idle (Operation.abort (.referenceUnderflow id)) fun _ => Std.Refl.refl _
  if channel.references = 1 then
    releaseChannel alters withdraws resets id

theorem run_releaseChannel (id : Nat) :
    (releaseChannel alters withdraws resets id).run = Scheduler.releaseChannel id := rfl

theorem run_drop (id : Nat) :
    (drop alters withdraws resets id).run = Scheduler.drop id := by
  unfold drop Scheduler.drop
  simp only [run_bind, run_ite, run_releaseChannel]
  rfl

end Withdraws

end Alters

end Script

/-- Requests that disable and enable engines. -/
def Request.switches : Request → Bool
  | .disableEngine .. | .enableEngine .. | .disableAll .. | .enableAll => true
  | _ => false

/-- Requests that change who is bound, grouped and attached. -/
def Request.alters : Request → Bool
  | .bind .. | .drop .. | .acknowledge .. | .join .. | .leave .. | .createGroup .. |
    .destroyGroup .. | .timeslice .. | .attach .. | .detach .. => true
  | _ => false

/-- The requests that take an act. -/
def Act.IsFor {α : Type} (request : Request) : Act α → Prop
  | .update list id add wait => request = .update list id add wait
  | .withdraw .. => ∃ handle, request = .drop handle ∨ request = .leave handle
  | .switch .. => request.switches = true
  | .resets .. => ∃ handle, request = .drop handle
  | .alter .. => request.alters = true
  | .event injection => request = .inject injection

/-- An update is the act of the request that asks for it. -/
theorem Act.isFor_update (list : Nat) (id : Option Nat) (add wait : Bool) :
    (Act.update list id add wait).IsFor (.update list id add wait) :=
  rfl

/-- An event is the act of the request that injects it. -/
theorem Act.isFor_event (injection : Injection) : (Act.event injection).IsFor (.inject injection) :=
  rfl

namespace Session

/-- The script of a request takes only its own acts. -/
abbrev Plan (request : Request) : Type → Type 1 :=
  Script fun _ step => step.IsFor request

variable {request : Request}

/-- What is done with the channel under a handle. -/
def planOn (session : Session) (handle : Nat) (each : Nat → Plan request Reply) :
    Plan request Reply :=
  match session.handles.find? handle with
  | some channel => each channel
  | none => pure .unknownHandle

/-- What is done unless a handle is taken. -/
def planUnlessTaken (session : Session) (handle : Nat) (script : Plan request Reply) :
    Plan request Reply :=
  if session.handles.contains handle then pure .takenHandle else script

/-- A reference is acquired and filed under a handle that is not taken. -/
def planFile (session : Session) (handle : Nat) (acquire : Plan request Nat) :
    Plan request Reply :=
  session.planUnlessTaken handle (acquire.mapping .id)

/-- The script of a request. -/
def plan (session : Session) : (request : Request) → Plan request Reply
  | .bind handle binding =>
      session.planFile handle (.alter (fun _ _ _ => rfl) _ (Scheduler.alters_bind binding))
  | .retain handle channel =>
      session.planFile handle (.answering (.idle _ (Scheduler.idles_retain channel)) channel)
  | .duplicate handle source =>
      session.planUnlessTaken handle <| session.planOn source fun channel =>
        session.planFile handle (.answering
          (.idle _ (Scheduler.idles_countReferences channel (·.references + 1))) channel)
  | .drop handle =>
      session.planOn handle fun channel =>
        .answering (.drop (fun _ _ _ => rfl) (fun _ _ => ⟨handle, .inl rfl⟩)
          (fun _ _ => ⟨handle, rfl⟩) channel) .done
  | .channel handle =>
      session.planOn handle fun id =>
        .mapping (.channel id) (.read _ (Scheduler.reads_channelAt id))
  | .enable handle =>
      session.planOn handle fun id => .answering (.idle _ (Scheduler.idles_enableChannel id)) .done
  | .disable handle =>
      session.planOn handle fun id => .answering (.bus _ (Device.idles_disableChannel id)) .done
  | .enabled handle =>
      session.planOn handle fun id => .mapping .flag (.bus _ (Device.idles_channelEnabled id))
  | .acknowledge handle =>
      session.planOn handle fun id => .answering (.acknowledgeFault (fun _ _ _ => rfl) id) .done
  | .notify handle =>
      session.planOn handle fun id => .answering (.idle _ (Scheduler.idles_notify id)) .done
  | .wait handle timeout =>
      session.planOn handle fun id =>
        .answering (.read _ (Scheduler.reads_waitEvent id timeout)) .woken
  | .waitWoken handle waker =>
      session.planOn handle fun id => .answering (.waitWoken id waker) .woken
  | .join handle group =>
      session.planOn handle fun id =>
        .answering (.alter (fun _ _ _ => rfl) _ (Scheduler.alters_joinGroup group id)) .done
  | .leave handle =>
      session.planOn handle fun id =>
        .answering (.leaveGroup (fun _ _ _ => rfl) (fun _ _ => ⟨handle, .inr rfl⟩) id) .done
  | .state channel =>
      .mapping .state (.read (Scheduler.channelState channel)
        ((Scheduler.reads_channel channel).bind fun _ => Scheduler.reads_pure _))
  | .update runlist channel add wait =>
      .answering (.act (.update runlist channel add wait)
        (Act.isFor_update runlist channel add wait)) .done
  | .snapshot runlist => .mapping .entries (.read _ (Scheduler.reads_snapshot runlist))
  | .active runlist =>
      .mapping .ids (.read (Scheduler.activeChannels runlist)
        ((Scheduler.reads_runlist runlist).bind fun _ => Scheduler.reads_pure _))
  | .createGroup runlist =>
      .mapping .id (.alter (fun _ _ _ => rfl) _ (Scheduler.alters_createGroup runlist))
  | .destroyGroup group =>
      .answering (.alter (fun _ _ _ => rfl) _ (Scheduler.alters_destroyGroup group)) .done
  | .members group =>
      .mapping .ids (.read (Scheduler.groupMembers group)
        ((Scheduler.reads_group group).bind fun _ => Scheduler.reads_pure _))
  | .timeslice group timeslice =>
      .answering (.alter (fun _ _ _ => rfl) _ (Scheduler.alters_setTimeslice group timeslice)) .done
  | .preempt (.channel id) => .answering (.preemptChannel id) .done
  | .preempt (.group id) => .answering (.preemptGroup id) .done
  | .disableEngine engine waitIdle =>
      .answering (.disableEngine (fun _ _ => rfl) engine waitIdle) .done
  | .enableEngine engine => .answering (.enableEngine (fun _ _ => rfl) engine) .done
  | .disableAll waitIdle =>
      .answering (do
        .disableEngines (fun _ _ => rfl) waitIdle ((← .state).config.engines.map (·.id)) []) .done
  | .enableAll =>
      .answering (do
        (← .state).config.engines.forM fun engine => .enableEngine (fun _ _ => rfl) engine.id) .done
  | .waitIdle engine => .answering (.waitEngineIdle engine) .done
  | .recover (.channel id) reason => .answering (.recoverChannel id reason) .done
  | .recover (.group id) reason => .answering (.recoverGroup id reason) .done
  | .interrupts status => .mapping .word (.handleInterrupts status)
  | .service => .mapping .word .serviceInterrupts
  | .attach target =>
      .answering (.alter (fun _ _ _ => rfl)
        (modify fun scheduler => { scheduler with attached := scheduler.attached.insert target })
        (respects_modify fun _ => Scheduler.alters_of_same rfl rfl rfl rfl rfl rfl)) .done
  | .detach target =>
      .answering (.alter (fun _ _ _ => rfl)
        (modify fun scheduler => { scheduler with attached := scheduler.attached.erase target })
        (respects_modify fun _ => Scheduler.alters_of_same rfl rfl rfl rfl rfl rfl)) .done
  | .inject event => .answering (.act (.event event) (Act.isFor_event event)) .done

/-- Requests that disable and enable engines service forced faults only. -/
theorem forces_plan {request : Request} (switches : request.switches = true) (session : Session) :
    (session.plan request).Forces := by
  cases request
  case disableEngine id waitIdle =>
    exact ⟨Script.forces_disableEngine _ id waitIdle, fun _ => trivial⟩
  case enableEngine id => exact ⟨⟨trivial, fun _ => trivial⟩, fun _ => trivial⟩
  case disableAll waitIdle =>
    exact ⟨⟨trivial, fun _ => Script.forces_disableEngines _ waitIdle _ []⟩, fun _ => trivial⟩
  case enableAll =>
    exact ⟨⟨trivial, fun _ => Script.forces_forM _ fun _ => ⟨trivial, fun _ => trivial⟩⟩,
      fun _ => trivial⟩
  all_goals cases switches

/-- A request is carried out by a script: its outcome and the scheduler that it leaves are those of
the script. -/
def CarriedOut (operation : Operation Session Reply) (script : Plan request Reply)
    (session : Session) : Prop :=
  ∃ handles, operation session = ((script.run session.scheduler).1,
    { scheduler := (script.run session.scheduler).2, handles })

/-- A call of the scheduler. -/
theorem carriedOut_call {operation : Operation Scheduler Reply} {script : Plan request Reply}
    (same : script.run = operation) (session : Session) :
    CarriedOut (call operation) script session :=
  ⟨session.handles, by rw [same]; rfl⟩

/-- A call whose own answer is of no interest. -/
theorem carriedOut_done {operation : Operation Scheduler Unit} {script : Plan request Unit}
    {reply : Reply} (same : script.run = operation) (session : Session) :
    CarriedOut (call (operation *> pure reply)) (script.answering reply) session :=
  carriedOut_call ((script.run_answering reply).trans (congrArg (· *> pure reply) same)) session

/-- A call whose answer is told. -/
theorem carriedOut_told {α : Type} {operation : Operation Scheduler α} {script : Plan request α}
    {tell : α → Reply} (same : script.run = operation) (session : Session) :
    CarriedOut (call (tell <$> operation)) (script.mapping tell) session :=
  carriedOut_call ((script.run_mapping tell).trans (congrArg (tell <$> ·) same)) session

/-- What is done with the channel under a handle. -/
theorem carriedOut_withHandle {operation : Nat → Operation Session Reply}
    {each : Nat → Plan request Reply} {session : Session}
    (same : ∀ channel, CarriedOut (operation channel) (each channel) session) (handle : Nat) :
    CarriedOut (withHandle handle operation) (session.planOn handle each) session := by
  have looks : withHandle handle operation session =
      (match session.handles.find? handle with
        | some channel => operation channel
        | none => pure .unknownHandle) session := rfl
  unfold CarriedOut planOn
  rw [looks]
  cases session.handles.find? handle with
  | none => exact ⟨session.handles, rfl⟩
  | some channel => exact same channel

/-- What is done unless a handle is taken. -/
theorem carriedOut_unlessTaken {operation : Operation Session Reply} {script : Plan request Reply}
    {session : Session} (same : CarriedOut operation script session) (handle : Nat) :
    CarriedOut (do
      if (← get).handles.contains handle then
        return .takenHandle
      operation) (session.planUnlessTaken handle script) session := by
  have looks : (do
      if (← get).handles.contains handle then
        return .takenHandle
      operation : Operation Session Reply) session =
      (if session.handles.contains handle then pure .takenHandle else operation) session := rfl
  unfold CarriedOut planUnlessTaken
  rw [looks]
  split
  · exact ⟨session.handles, rfl⟩
  · exact same

/-- A reference that is acquired and filed. -/
theorem carriedOut_file {acquire : Operation Session Nat} {script : Plan request Nat}
    {session : Session} (same : acquire session = ((script.run session.scheduler).1,
      { session with scheduler := (script.run session.scheduler).2 })) (handle : Nat) :
    CarriedOut (file handle acquire) (session.planFile handle script) session := by
  refine carriedOut_unlessTaken ?_ handle
  have runs : (script.mapping Reply.id).run session.scheduler = _ :=
    run_bind script.run (fun channel => pure (Reply.id channel)) session.scheduler
  unfold CarriedOut
  rw [runs, run_bind, same]
  rcases script.run session.scheduler with ⟨failure | channel, scheduler⟩
  · exact ⟨session.handles, rfl⟩
  · exact ⟨session.handles.insert handle channel, rfl⟩

/-- A reference that one call acquires. -/
theorem carriedOut_fileCall {operation : Operation Scheduler Nat} {script : Plan request Nat}
    (same : script.run = operation) (session : Session) (handle : Nat) :
    CarriedOut (file handle (call operation)) (session.planFile handle script) session :=
  carriedOut_file (by rw [same]; rfl) handle

/-- A reference to a channel that is counted. -/
theorem carriedOut_fileCounted {operation : Operation Scheduler Unit} {script : Plan request Unit}
    (same : script.run = operation) (session : Session) (handle channel : Nat) :
    CarriedOut (file handle do
      call operation
      return channel) (session.planFile handle (script.answering channel)) session := by
  refine carriedOut_file ?_ handle
  have runs : (script.answering channel).run session.scheduler = _ :=
    run_bind script.run (fun _ => pure channel) session.scheduler
  rw [runs, same, run_bind]
  unfold call focus
  simp only [ExceptT.mk]
  rcases operation session.scheduler with ⟨failure | done, scheduler⟩
  · rfl
  · rfl

/-- A reference that is given back. -/
theorem carriedOut_drop {operation : Operation Scheduler Unit} {script : Plan request Unit}
    (same : script.run = operation) (session : Session) (handle : Nat) :
    CarriedOut (do
      modify fun session => { session with handles := session.handles.erase handle }
      call operation
      return Reply.done) (script.answering .done) session := by
  have runs : (script.answering Reply.done).run session.scheduler = _ :=
    run_bind script.run (fun _ => pure Reply.done) session.scheduler
  refine ⟨session.handles.erase handle, ?_⟩
  rw [runs, same]
  change (call operation >>= fun _ => pure Reply.done)
    { session with handles := session.handles.erase handle } = _
  rw [run_bind]
  unfold call focus
  simp only [ExceptT.mk]
  rcases operation session.scheduler with ⟨failure | done, scheduler⟩
  · rfl
  · rfl

/-- Every request is carried out by its script. -/
theorem carriedOut_perform (request : Request) (session : Session) :
    CarriedOut (perform request) (session.plan request) session := by
  cases request with
  | bind handle binding => exact carriedOut_fileCall (by rfl) session handle
  | retain handle channel => exact carriedOut_fileCounted (by rfl) session handle channel
  | duplicate handle source =>
    exact carriedOut_unlessTaken (carriedOut_withHandle (fun channel =>
      carriedOut_fileCounted (by rfl) session handle channel) source) handle
  | drop handle =>
    exact carriedOut_withHandle (fun channel =>
      carriedOut_drop (Script.run_drop _ _ _ channel) session handle) handle
  | channel handle =>
    exact carriedOut_withHandle (fun channel => carriedOut_call (by rfl) session) handle
  | enable handle =>
    exact carriedOut_withHandle (fun channel => carriedOut_done (by rfl) session) handle
  | disable handle =>
    exact carriedOut_withHandle (fun channel => carriedOut_done (by rfl) session) handle
  | enabled handle =>
    exact carriedOut_withHandle (fun channel => carriedOut_told (by rfl) session) handle
  | acknowledge handle =>
    exact carriedOut_withHandle (fun channel =>
      carriedOut_done (Script.run_acknowledgeFault _ channel) session) handle
  | notify handle =>
    exact carriedOut_withHandle (fun channel => carriedOut_done (by rfl) session) handle
  | wait handle =>
    exact carriedOut_withHandle (fun channel => carriedOut_done (by rfl) session) handle
  | waitWoken handle waker =>
    exact carriedOut_withHandle (fun channel =>
      carriedOut_done (Script.run_waitWoken channel waker) session) handle
  | join handle group =>
    exact carriedOut_withHandle (fun channel => carriedOut_done (by rfl) session) handle
  | leave handle =>
    exact carriedOut_withHandle (fun channel =>
      carriedOut_done (Script.run_leaveGroup _ _ channel) session) handle
  | state channel => exact carriedOut_told (by rfl) session
  | update runlist channel add wait => exact carriedOut_done (by rfl) session
  | snapshot runlist => exact carriedOut_told (by rfl) session
  | active runlist => exact carriedOut_told (by rfl) session
  | createGroup runlist => exact carriedOut_told (by rfl) session
  | destroyGroup group => exact carriedOut_done (by rfl) session
  | members group => exact carriedOut_told (by rfl) session
  | timeslice group timeslice => exact carriedOut_done (by rfl) session
  | preempt target =>
    cases target with
    | channel id => exact carriedOut_done (Script.run_preemptChannel id) session
    | group id => exact carriedOut_done (Script.run_preemptGroup id) session
  | disableEngine engine waitIdle =>
    exact carriedOut_done (Script.run_disableEngine _ engine waitIdle) session
  | enableEngine engine => exact carriedOut_done (by rfl) session
  | disableAll waitIdle =>
    refine carriedOut_done ?_ session
    rw [Script.run_bind]
    exact congrArg _ (funext fun scheduler => Script.run_disableEngines _ waitIdle _ [])
  | enableAll =>
    refine carriedOut_done ?_ session
    simp only [Script.run_bind, Script.run_forM]
    rfl
  | waitIdle engine => exact carriedOut_done (Script.run_waitEngineIdle engine) session
  | recover target reason =>
    cases target with
    | channel id => exact carriedOut_done (Script.run_recoverChannel id reason) session
    | group id => exact carriedOut_done (Script.run_recoverGroup id reason) session
  | interrupts status => exact carriedOut_told (Script.run_handleInterrupts status) session
  | service => exact carriedOut_told Script.run_serviceInterrupts session
  | attach target => exact carriedOut_call (by rfl) session
  | detach target => exact carriedOut_call (by rfl) session
  | inject event =>
    refine carriedOut_call ?_ session
    change (Act.inject event >>= fun _ => pure Reply.done) = _
    unfold Act.inject
    simp only [bind_assoc]

/-- A request leaves the scheduler that its script leaves. -/
theorem scheduler_perform (request : Request) (session : Session) :
    (perform request session).2.scheduler =
      ((session.plan request).run session.scheduler).2 := by
  obtain ⟨handles, same⟩ := carriedOut_perform request session
  rw [same]

/-- The answer of a script does not bear on the scheduler that it leaves. -/
theorem scheduler_answering {α β : Type} (script : Plan request α) (reply : β)
    (scheduler : Scheduler) :
    ((script.answering reply).run scheduler).2 = (script.run scheduler).2 := by
  have runs : (script.answering reply).run scheduler = _ :=
    run_bind script.run (fun _ => pure reply) scheduler
  rw [runs]
  rcases script.run scheduler with ⟨_ | _, _⟩ <;> rfl

/-- Nor does the way in which the answer is told. -/
theorem scheduler_mapping {α β : Type} (tell : α → β) (script : Plan request α)
    (scheduler : Scheduler) :
    ((script.mapping tell).run scheduler).2 = (script.run scheduler).2 := by
  have runs : (script.mapping tell).run scheduler = _ :=
    run_bind script.run (fun value => pure (tell value)) scheduler
  rw [runs]
  rcases script.run scheduler with ⟨_ | _, _⟩ <;> rfl

/-- A request on the channel under a handle leaves the scheduler as it is, or as the call for that
channel leaves it. -/
theorem holds_planOn {property : Scheduler → Prop} {session : Session} {handle : Nat}
    {each : Nat → Plan request Unit} {reply : Reply} {operation : Nat → Operation Scheduler Unit}
    (same : ∀ channel, (each channel).run = operation channel) (held : property session.scheduler)
    (holds : ∀ channel, session.handles.find? handle = some channel →
      property (operation channel session.scheduler).2) :
    property ((session.planOn handle fun channel =>
      (each channel).answering reply).run session.scheduler).2 := by
  unfold planOn
  cases found : session.handles.find? handle with
  | none => exact held
  | some channel =>
    dsimp only
    rw [scheduler_answering, same]
    exact holds channel found

/-- A relation between the schedulers of two sessions. -/
def Along (related : Scheduler → Scheduler → Prop) (before after : Session) : Prop :=
  related before.scheduler after.scheduler

instance {related : Scheduler → Scheduler → Prop} [IsPreorder Scheduler related] :
    IsPreorder Session (Along related) where
  refl session := Std.Refl.refl session.scheduler
  trans before middle after :=
    IsTrans.trans before.scheduler middle.scheduler after.scheduler

/-- A call of the scheduler. -/
theorem respects_call {α : Type} {related : Scheduler → Scheduler → Prop}
    {operation : Operation Scheduler α} (respects : Respects related operation) :
    Respects (Along related) (call operation) :=
  respects_focus respects fun _ _ => id

/-- A request respects what recovery and its own acts respect. -/
theorem respects_plan {related : Scheduler → Scheduler → Prop} [IsPreorder Scheduler related]
    (recovers : Script.Recovers related)
    (acts : ∀ (α : Type) (step : Act α), step.IsFor request → Respects related step.run) :
    Respects (Along related) (perform request) := by
  intro session
  unfold Along
  rw [scheduler_perform]
  exact (session.plan request).respects recovers acts session.scheduler

/-- The sessions that allowed requests lead to from one. A request may end in any way. -/
inductive Since (allowed : Session → Request → Prop) (start : Session) : Session → Prop where
  | start : Since allowed start start
  | performed {session : Session} (since : Since allowed start session) (request : Request)
      (isAllowed : allowed session request) : Since allowed start (perform request session).2

/-- A run that goes on from where another one ended. -/
theorem Since.trans {allowed : Session → Request → Prop} {start middle session : Session}
    (one : Since allowed start middle) (two : Since allowed middle session) :
    Since allowed start session := by
  induction two with
  | start => exact one
  | performed _ request isAllowed ih => exact ih.performed request isAllowed

/-- A run goes on as long as each request is allowed where it is made. -/
theorem Since.performAll {allowed : Session → Request → Prop} {start session : Session}
    (since : Since allowed start session) {requests : List Request}
    (each : ∀ step ∈ requests.inits.zip requests, allowed (session.performAll step.1) step.2) :
    Since allowed start (session.performAll requests) := by
  induction requests generalizing session with
  | nil => exact since
  | cons request rest ih =>
    have first := since.performed request (each ([], request) (by simp))
    refine ih first fun step mem => each (request :: step.1, step.2) ?_
    rw [List.inits, List.zip_cons_cons, List.zip_map_left]
    exact List.mem_cons_of_mem _ (List.mem_map.mpr ⟨step, mem, rfl⟩)

/-- A run of requests that are allowed wherever they are made. -/
theorem Since.performAll_of_always {allowed : Session → Request → Prop} {start session : Session}
    (since : Since allowed start session) {requests : List Request}
    (each : ∀ request ∈ requests, ∀ session, allowed session request) :
    Since allowed start (session.performAll requests) :=
  since.performAll fun step mem => each step.2 (List.of_mem_zip mem).2 _

/-- What relates the schedulers around each request that is allowed relates them around a run. -/
theorem Since.along {allowed : Session → Request → Prop} {start session : Session}
    {related : Scheduler → Scheduler → Prop} [IsPreorder Scheduler related]
    (each : ∀ session request, allowed session request →
      Along related session (perform request session).2)
    (since : Since allowed start session) : Along related start session := by
  induction since with
  | start => exact Std.Refl.refl start
  | performed since request isAllowed ih =>
    exact IsTrans.trans _ _ _ ih (each _ request isAllowed)

end Session

end GpuSched
