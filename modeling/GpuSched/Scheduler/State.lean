import GpuSched.Bitmap
import GpuSched.Memory.Pool
import GpuSched.Operation
import GpuSched.Register.Device
import GpuSched.Scheduler.Config
import GpuSched.Scheduler.FaultReason
import GpuSched.Table

/-!
# State of a scheduler

Channels and groups lie in fixed tables; the numbers of those that are not in use form two pools.
Each runlist has two buffers: the hardware reads the current one, an update is written into the
spare one, and the two change places once the hardware has picked the update up.
-/
namespace GpuSched

/-- What a channel slot is used for. -/
inductive ChannelState where
  | free
  | bound
  /-- In the active set of its runlist. -/
  | active
  /-- Stopped until the fault is acknowledged. -/
  | faulted
  deriving DecidableEq, Repr, Inhabited

/-- The name of a state. -/
def ChannelState.label : ChannelState → String
  | free => "Free"
  | bound => "Bound"
  | active => "Active"
  | faulted => "Faulted"

/-- A channel slot. -/
structure Channel where
  /-- How many references to the channel are held. -/
  references : UInt32 := 0
  state : ChannelState := .free
  runlist : Nat := 0
  /-- The group that the channel belongs to. -/
  group : Option Nat := none
  /-- The address space of the context. -/
  space : Option Nat := none
  /-- Physical address of the instance block, zero for none. -/
  instancePhysical : Nat := 0
  /-- Why the channel faulted, until it is acknowledged. -/
  fault : Option FaultReason := none
  /-- How many events were posted. -/
  events : Nat := 0
  deriving DecidableEq, Repr, Inhabited

/-- The slot without a context; references are kept. -/
def Channel.reset (channel : Channel) : Channel := { references := channel.references }

/-- The target that a fault of a channel is blamed on. -/
def Channel.faultTarget (channel : Channel) (id : Nat) : Target :=
  match channel.group with
  | some group => .group group
  | none => .channel id

/-- A slot for a time-slice group. -/
structure Group where
  inUse : Bool := false
  runlist : Nat := 0
  /-- The channels of the group, in the order in which they joined. -/
  members : List Nat := []
  timeslice : Timeslice := {}
  /-- How many members are in the active set of the runlist. -/
  active : UInt32 := 0
  deriving DecidableEq, Repr, Inhabited

/-- A runlist with its two buffers. -/
structure Runlist where
  /-- The buffer that the hardware reads. -/
  current : DmaBuffer
  /-- The buffer for the next update. -/
  spare : DmaBuffer
  /-- The number of entries in the current buffer. -/
  count : Nat := 0
  activeChannels : Bitmap
  activeGroups : Bitmap

/-- An engine reset that waits until a context is released. -/
structure DeferredReset where
  engine : Nat
  target : Target
  deriving DecidableEq, Repr

/-- Numbers that are not in use. -/
abbrev IdPool : Type := Table Unit

/-- The pool of all numbers below a bound. -/
def IdPool.full (count : Nat) : IdPool :=
  ⟨(List.range count).map fun id => (id, ()), by
    rw [List.pairwise_map]
    exact List.pairwise_lt_range⟩

/-- The least number of a pool. -/
def IdPool.first? (pool : IdPool) : Option Nat := pool.entries.head?.map (·.1)

/-- What a scheduler runs on. -/
structure Machine where
  bus : Bus
  memory : MemoryPool

/-- The state of a scheduler. -/
structure Scheduler where
  config : Config
  machine : Machine
  channels : Array Channel
  groups : Array Group
  runlists : Table Runlist
  freeChannels : IdPool
  freeGroups : IdPool
  /-- Resets that wait, the oldest first. -/
  deferred : List DeferredReset := []
  /-- Contexts that a debugger is attached to. -/
  attached : List Target := []
  /-- The clock that waits go by. -/
  clock : Clock := .endless

/-- Why the state of a channel or group does not permit a request. -/
inductive StateConflict where
  | notFaulted (channel : Nat) (state : ChannelState)
  | notBound (channel : Nat) (state : ChannelState)
  | otherRunlist (channel runlist wanted : Nat)
  | groupRunlist (channel runlist group other : Nat)
  | alreadyGrouped (channel group : Nat)
  | notGrouped (channel : Nat)
  | groupNotEmpty (group members : Nat)
  deriving DecidableEq, Repr

/-- The text of a conflict. -/
def StateConflict.message : StateConflict → String
  | notFaulted channel state =>
      "channel " ++ toString channel ++ " is " ++ state.label ++ ", not faulted"
  | notBound channel state => "channel " ++ toString channel ++ " is " ++ state.label
  | otherRunlist channel runlist wanted =>
      "channel " ++ toString channel ++ " is on runlist " ++ toString runlist ++ ", not " ++
        toString wanted
  | groupRunlist channel runlist group other =>
      "channel " ++ toString channel ++ " is on runlist " ++ toString runlist ++ ", group " ++
        toString group ++ " on " ++ toString other
  | alreadyGrouped channel group =>
      "channel " ++ toString channel ++ " already belongs to group " ++ toString group
  | notGrouped channel => "channel " ++ toString channel ++ " is not in a group"
  | groupNotEmpty group members =>
      "group " ++ toString group ++ " still has " ++ toString members ++ " channels"

namespace Scheduler

/-- Refuse a request because of the state. -/
def conflict {α : Type} (reason : StateConflict) : Operation Scheduler α :=
  Operation.refuse (.invalidState reason.message)

/-- Run an operation of the hardware. -/
def onBus {α : Type} (operation : Operation Bus α) : Operation Scheduler α :=
  operation.focus (·.machine.bus)
    (fun scheduler bus => { scheduler with machine := { scheduler.machine with bus } })

/-- The channel of a slot that a caller names. -/
def channel (id : Nat) : Operation Scheduler Channel := do
  match (← get).channels[id]? with
  | some channel => return channel
  | none => Operation.refuse (.invalidChannel id)

/-- The channel of a slot that is known to exist. -/
def channelAt (id : Nat) : Operation Scheduler Channel := do
  Operation.entry (← get).channels id

/-- Change the channel of a slot. -/
def changeChannel (id : Nat) (change : Channel → Channel) : Operation Scheduler Unit :=
  modify fun scheduler => { scheduler with channels := scheduler.channels.modify id change }

/-- A group in use that a caller names. -/
def group (id : Nat) : Operation Scheduler Group := do
  match (← get).groups[id]? with
  | some group => if group.inUse then return group else Operation.refuse (.invalidGroup id)
  | none => Operation.refuse (.invalidGroup id)

/-- The group of a slot that is known to exist. -/
def groupAt (id : Nat) : Operation Scheduler Group := do
  Operation.entry (← get).groups id

/-- Change the group of a slot. -/
def changeGroup (id : Nat) (change : Group → Group) : Operation Scheduler Unit :=
  modify fun scheduler => { scheduler with groups := scheduler.groups.modify id change }

/-- A runlist that a caller names. -/
def runlist (id : Nat) : Operation Scheduler Runlist := do
  match (← get).runlists.find? id with
  | some runlist => return runlist
  | none => Operation.refuse (.invalidRunlist id)

/-- Replace a runlist. -/
def putRunlist (id : Nat) (runlist : Runlist) : Operation Scheduler Unit :=
  modify fun scheduler => { scheduler with runlists := scheduler.runlists.insert id runlist }

/-- An engine that a caller names. -/
def engine (id : Nat) : Operation Scheduler Engine := do
  match (← get).config.engines.find? (·.id = id) with
  | some engine => return engine
  | none => Operation.refuse (.invalidEngine id)

/-- The decoded status word of an engine. -/
def engineStatus (id : Nat) : Operation Scheduler UnitStatus := do
  return .decode (← onBus (Device.engineStatus id))

/-- The decoded status word of a PBDMA. -/
def pbdmaStatus (id : Nat) : Operation Scheduler UnitStatus := do
  return .decode (← onBus (Device.pbdmaStatus id))

/-- The channels that a target covers: one channel, or the members of a group. -/
def targetChannels (scheduler : Scheduler) : Target → List Nat
  | .channel id => [id]
  | .group id => ((scheduler.groups[id]?).map (·.members)).getD []

/-- A channel inside a group counts as its group. -/
def normalize (scheduler : Scheduler) : Target → Target
  | .channel id => ((scheduler.channels[id]?).map (·.faultTarget id)).getD (.channel id)
  | .group id => .group id

/-- Wait for a yes of the hardware, up to a timeout. -/
def waitFor (timeout : Nat) (ask : Operation Bus Bool) : Operation Scheduler Bool := do
  let scheduler ← get
  match scheduler.config.timing with
  | .simulated => return true
  | .wallclock => onBus (scheduler.config.poll.backoff.waitBy scheduler.clock timeout ask)

/-- Set or clear the disable bits of some runlists; without runlists nothing is accessed. -/
def setSchedulerDisabled (runlists : UInt32) (disabled : Bool) : Operation Scheduler Unit :=
  if runlists = 0 then pure () else onBus (Device.setSchedulerDisabled runlists disabled)

/-- Whether a mask holds the bit of a number. -/
def hasBit (mask : UInt32) (index : Nat) : Except Failure Bool := do
  return mask &&& (← Checked.bit32 index) != 0

/-- The mask with a bit for each of some numbers. -/
def maskOf (indices : List Nat) : Except Failure UInt32 :=
  indices.foldlM (fun mask index => do return mask ||| (← Checked.bit32 index)) 0

/-- The buffers of a runlist, or none at all. -/
def openRunlist (config : Config) : Operation Machine Runlist := do
  let allocate : Operation Machine DmaBuffer :=
    (MemoryPool.allocate ((config.channelCount + config.groupCount) * 8)).focus (·.memory)
      ({ · with memory := · })
  let current ← allocate
  match ← allocate.attempt with
  | .ok spare =>
      return { current, spare, activeChannels := .empty config.channelCount,
               activeGroups := .empty config.groupCount }
  | .error error =>
      (MemoryPool.release current).focus (·.memory) ({ · with memory := · })
      Operation.refuse error

/-- Give the buffers of a runlist back. -/
def closeRunlist (runlist : Runlist) : Operation Machine Unit := do
  (MemoryPool.release runlist.current).focus (·.memory) ({ · with memory := · })
  (MemoryPool.release runlist.spare).focus (·.memory) ({ · with memory := · })

/-- Open the runlist of each engine, once; if one cannot be opened, none stays open. -/
def openRunlists (config : Config) :
    List Engine → (opened : Table Runlist) → Operation Machine (Table Runlist)
  | [], opened => pure opened
  | engine :: engines, opened => do
      if opened.contains engine.runlist then
        openRunlists config engines opened
      else
        match ← (openRunlist config).attempt with
        | .ok runlist => openRunlists config engines (opened.insert engine.runlist runlist)
        | .error error =>
            opened.values.forM closeRunlist
            Operation.refuse error

/-- Check a configuration, open its runlists and report the serviced interrupts. -/
def prepare (config : Config) : Operation Machine (Table Runlist) := do
  config.validate
  let runlists ← openRunlists config config.engines .empty
  (Device.enableInterrupts Interrupt.handledMask).focus (·.bus) ({ · with bus := · })
  return runlists

/-- The scheduler of a configuration on a machine, whose waits go by a clock that does not end
unless another is given; a refusal leaves the machine behind. -/
def create (config : Config) (machine : Machine) (clock : Clock := .endless) :
    Except (Failure × Machine) Scheduler :=
  match prepare config machine with
  | (.error failure, machine) => .error (failure, machine)
  | (.ok runlists, machine) => .ok {
      config, machine, runlists, clock
      channels := Array.replicate config.channelCount {}
      groups := Array.replicate config.groupCount {}
      freeChannels := .full config.channelCount
      freeGroups := .full config.groupCount }

/-- The memory of the machine after every runlist has been closed. -/
def shutdown (scheduler : Scheduler) : Machine :=
  ((scheduler.runlists.values.forM closeRunlist : Operation Machine Unit) scheduler.machine).2

end Scheduler

end GpuSched
