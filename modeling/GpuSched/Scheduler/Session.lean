import GpuSched.Register.Injection
import GpuSched.Scheduler.Activity
import GpuSched.Scheduler.Channel

/-!
# Sessions

A session is a scheduler with the references that its client holds, each under a handle. A client
acts only through requests: calls of the scheduler, and events that it injects into the simulated
hardware. `Session.perform` carries out one request, so the states that a client can bring about
are those that lists of requests lead to.
-/
namespace GpuSched

/-- What a client asks for. A handle stands for the channel to which it holds a reference. -/
inductive Request where
  | bind (handle : Nat) (binding : Scheduler.Binding)
  | retain (handle channel : Nat)
  | duplicate (handle source : Nat)
  | drop (handle : Nat)
  | channel (handle : Nat)
  | enable (handle : Nat)
  | disable (handle : Nat)
  | enabled (handle : Nat)
  | acknowledge (handle : Nat)
  | notify (handle : Nat)
  /-- Wait for an event, for a number of microseconds in which none is posted. -/
  | wait (handle : Nat) (timeout : Nat := 0)
  | waitWoken (handle : Nat) (waker : Scheduler.Waker)
  | join (handle group : Nat)
  | leave (handle : Nat)
  | state (channel : Nat)
  | update (runlist : Nat) (channel : Option Nat) (add wait : Bool)
  | snapshot (runlist : Nat)
  | active (runlist : Nat)
  | createGroup (runlist : Nat)
  | destroyGroup (group : Nat)
  | members (group : Nat)
  | timeslice (group : Nat) (timeslice : Timeslice)
  | preempt (target : Target)
  | disableEngine (engine : Nat) (waitIdle : Bool)
  | enableEngine (engine : Nat)
  | disableAll (waitIdle : Bool)
  | enableAll
  | waitIdle (engine : Nat)
  | recover (target : Target) (reason : FaultReason)
  | interrupts (status : UInt32)
  | service
  | attach (target : Target)
  | detach (target : Target)
  | inject (event : Injection)
  deriving DecidableEq, Repr

/-- What a client is told. -/
inductive Reply where
  | done
  | woken
  | flag (value : Bool)
  | id (value : Nat)
  | ids (values : List Nat)
  | word (value : UInt32)
  | state (value : ChannelState)
  | entries (values : List RunlistEntry)
  | channel (id : Nat) (value : Channel)
  /-- No reference is held under the handle. -/
  | unknownHandle
  /-- A reference is held under the handle already. -/
  | takenHandle
  deriving DecidableEq, Repr

/-- A scheduler and the channels to which references are held, by handle. -/
structure Session where
  scheduler : Scheduler
  handles : Table Nat := .empty

namespace Session

/-- Run an operation of the scheduler. -/
def call {α : Type} (operation : Operation Scheduler α) : Operation Session α :=
  operation.focus (·.scheduler) ({ · with scheduler := · })

/-- Do something with the channel under a handle. -/
def withHandle (handle : Nat) (act : Nat → Operation Session Reply) : Operation Session Reply := do
  match (← get).handles.find? handle with
  | some channel => act channel
  | none => return .unknownHandle

/-- Run an operation on the channel under a handle. -/
def onHandle (handle : Nat) (operation : Nat → Operation Scheduler Reply) :
    Operation Session Reply :=
  withHandle handle fun channel => call (operation channel)

/-- Acquire a reference and file it under a handle that is not taken. -/
def file (handle : Nat) (acquire : Operation Session Nat) : Operation Session Reply := do
  if (← get).handles.contains handle then
    return .takenHandle
  let channel ← acquire
  modify fun session => { session with handles := session.handles.insert handle channel }
  return .id channel

/-- Give the reference under a handle back. -/
def dropHandle (handle : Nat) : Operation Session Reply :=
  withHandle handle fun channel => do
    modify fun session => { session with handles := session.handles.erase handle }
    call (Scheduler.drop channel)
    return .done

/-- Carry out a request. -/
def perform : Request → Operation Session Reply
  | .bind handle binding => file handle (call (Scheduler.bind binding))
  | .retain handle channel =>
      file handle do
        call (Scheduler.retain channel)
        return channel
  | .duplicate handle source => do
      if (← get).handles.contains handle then
        return .takenHandle
      withHandle source fun channel =>
        file handle do
          call (Scheduler.duplicate channel)
          return channel
  | .drop handle => dropHandle handle
  | .channel handle =>
      onHandle handle fun id => return .channel id (← Scheduler.channelAt id)
  | .enable handle => onHandle handle fun id => Scheduler.enableChannel id *> pure .done
  | .disable handle => onHandle handle fun id => Scheduler.disableChannel id *> pure .done
  | .enabled handle => onHandle handle fun id => .flag <$> Scheduler.channelEnabled id
  | .acknowledge handle => onHandle handle fun id => Scheduler.acknowledgeFault id *> pure .done
  | .notify handle => onHandle handle fun id => Scheduler.notify id *> pure .done
  | .wait handle timeout =>
      onHandle handle fun id => Scheduler.waitEvent id timeout *> pure .woken
  | .waitWoken handle waker =>
      onHandle handle fun id => Scheduler.waitWoken id waker *> pure .woken
  | .join handle group => onHandle handle fun id => Scheduler.joinGroup group id *> pure .done
  | .leave handle => onHandle handle fun id => Scheduler.leaveGroup id *> pure .done
  | .state channel => call (.state <$> Scheduler.channelState channel)
  | .update runlist channel add wait =>
      call (Scheduler.updateRunlist runlist channel add wait *> pure .done)
  | .snapshot runlist => call (.entries <$> Scheduler.snapshot runlist)
  | .active runlist => call (.ids <$> Scheduler.activeChannels runlist)
  | .createGroup runlist => call (.id <$> Scheduler.createGroup runlist)
  | .destroyGroup group => call (Scheduler.destroyGroup group *> pure .done)
  | .members group => call (.ids <$> Scheduler.groupMembers group)
  | .timeslice group timeslice => call (Scheduler.setTimeslice group timeslice *> pure .done)
  | .preempt (.channel id) => call (Scheduler.preemptChannel id *> pure .done)
  | .preempt (.group id) => call (Scheduler.preemptGroup id *> pure .done)
  | .disableEngine engine waitIdle => call (Scheduler.disableEngine engine waitIdle *> pure .done)
  | .enableEngine engine => call (Scheduler.enableEngine engine *> pure .done)
  | .disableAll waitIdle => call (Scheduler.disableAllEngines waitIdle *> pure .done)
  | .enableAll => call (Scheduler.enableAllEngines *> pure .done)
  | .waitIdle engine => call (Scheduler.waitEngineIdle engine *> pure .done)
  | .recover (.channel id) reason => call (Scheduler.recoverChannel id reason *> pure .done)
  | .recover (.group id) reason => call (Scheduler.recoverGroup id reason *> pure .done)
  | .interrupts status => call (.word <$> Scheduler.handleInterrupts status)
  | .service => call (.word <$> Scheduler.serviceInterrupts)
  | .attach target =>
      call do
        modify fun scheduler => { scheduler with attached := scheduler.attached.insert target }
        return .done
  | .detach target =>
      call do
        modify fun scheduler => { scheduler with attached := scheduler.attached.erase target }
        return .done
  | .inject event =>
      call do
        let bus := (← get).machine.bus
        let hardware ← bus.hardware.inject event
        modify fun scheduler =>
          { scheduler with machine := { scheduler.machine with bus := { bus with hardware } } }
        return .done

/-- Give every reference back, by ascending handle. -/
def dropAll : Operation Session Unit := do
  (← get).handles.keys.forM fun handle => discard (dropHandle handle)

end Session

end GpuSched
