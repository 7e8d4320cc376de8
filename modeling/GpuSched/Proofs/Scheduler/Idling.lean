import GpuSched.Proofs.Register.Traffic
import GpuSched.Proofs.Scheduler.Lifecycle

/-!
# Steps beside updates

Only an update changes active sets, fills buffers and hands lists over. Every other step of the
scheduler belongs to one of three kinds. It idles: it reads, marks channels faulted, or drives the
hardware without a change of the disable bits. It drives resets and disable bits, as the service of
faults does. Or it alters who is bound, grouped and attached. What all of them leave alone is
`Stays`, and each kind has a relation of its own. Binding and grouping are followed step by step
once, for every relation that their steps respect (`Enrolls`).
-/
namespace GpuSched

open Operation

/-- Whether the slot of a channel is free, and its group. -/
def Channel.berth (channel : Channel) : Bool × Option Nat :=
  (decide (channel.state = .free), channel.group)

namespace Scheduler

variable {scheduler before middle after : Scheduler} {id : Nat} {α β : Type}

/-- The channel of a slot is marked active. -/
def ActiveAt (scheduler : Scheduler) (id : Nat) : Prop :=
  ∃ channel : Channel, scheduler.channels[id]? = some channel ∧ channel.state = .active

/-- The waits take as long as before, by the same clock. -/
structure SameTimes (before after : Scheduler) : Prop where
  config : after.config = before.config
  clock : after.clock = before.clock

instance : IsPreorder Scheduler SameTimes where
  refl _ := ⟨rfl, rfl⟩
  trans _ _ _ one two := ⟨two.config.trans one.config, two.clock.trans one.clock⟩

/-- A clock that can tell the times of waits still can. -/
theorem SameTimes.timely (same : SameTimes before after) (timely : before.Timely) :
    after.Timely := by
  unfold Timely
  rw [same.config, same.clock]
  exact timely

/-- The runlists stay as they are, no list is handed over, and no channel becomes active. -/
structure Stays (before after : Scheduler) : Prop where
  config : after.config = before.config
  clock : after.clock = before.clock
  runlists : after.runlists = before.runlists
  active : ∀ id, after.ActiveAt id → before.ActiveAt id
  hardware : Bus.Stays before.machine.bus after.machine.bus

/-- Who is in use, grouped and attached stays as it is. -/
structure Drives (before after : Scheduler) : Prop extends Stays before after where
  attached : after.attached = before.attached
  groups : after.groups = before.groups
  berths : ∀ id : Nat,
    after.channels[id]?.map Channel.berth = before.channels[id]?.map Channel.berth

/-- The resets that wait and the disable bits stay as they are. -/
structure Alters (before after : Scheduler) : Prop extends Stays before after where
  deferred : after.deferred = before.deferred
  disabled : after.machine.bus.word Register.schedulerDisable =
    before.machine.bus.word Register.schedulerDisable

/-- All of that stays as it is, and so do sound memberships. -/
structure Idles (before after : Scheduler) : Prop extends
    Drives before after, Alters before after where
  sound : ∀ {exact : Prop}, before.Sound exact → after.Sound exact

instance : IsPreorder Scheduler Stays where
  refl _ := ⟨rfl, rfl, rfl, fun _ active => active, Std.Refl.refl _⟩
  trans _ _ _ one two :=
    ⟨two.config.trans one.config, two.clock.trans one.clock, two.runlists.trans one.runlists,
      fun id => one.active id ∘ two.active id, IsTrans.trans _ _ _ one.hardware two.hardware⟩

/-- A step beside updates changes neither the lengths of waits nor the clock. -/
theorem Stays.sameTimes (stays : Stays before after) : SameTimes before after :=
  ⟨stays.config, stays.clock⟩

instance : IsPreorder Scheduler Drives where
  refl _ := ⟨Std.Refl.refl _, rfl, rfl, fun _ => rfl⟩
  trans _ _ _ one two :=
    ⟨IsTrans.trans _ _ _ one.toStays two.toStays, two.attached.trans one.attached,
      two.groups.trans one.groups, fun id => (two.berths id).trans (one.berths id)⟩

instance : IsPreorder Scheduler Alters where
  refl _ := ⟨Std.Refl.refl _, rfl, rfl⟩
  trans _ _ _ one two :=
    ⟨IsTrans.trans _ _ _ one.toStays two.toStays, two.deferred.trans one.deferred,
      two.disabled.trans one.disabled⟩

instance : IsPreorder Scheduler Idles where
  refl _ := ⟨Std.Refl.refl _, rfl, rfl, fun sound => sound⟩
  trans _ _ _ one two :=
    ⟨IsTrans.trans _ _ _ one.toDrives two.toDrives, two.deferred.trans one.deferred,
      two.disabled.trans one.disabled, fun sound => two.sound (one.sound sound)⟩

/-- What idles drives nothing else. -/
theorem drives_of_idles {operation : Operation Scheduler α} (idles : Respects Idles operation) :
    Respects Drives operation :=
  idles.mono fun _ _ => Idles.toDrives

/-- Reading respects every reflexive relation. -/
theorem Reads.respects {operation : Operation Scheduler α}
    {related : Scheduler → Scheduler → Prop} [Std.Refl related] (reads : Reads operation) :
    Respects related operation := by
  intro scheduler
  have same := reads scheduler
  unfold Yields at same
  rcases run : operation scheduler with ⟨_ | _, changed⟩ <;> rw [run] at same <;> subst same <;>
    exact Std.Refl.refl _

/-- An engine that is named is looked up. -/
theorem reads_engine (id : Nat) : Reads (Scheduler.engine id) := by
  intro scheduler
  exact (yields_engine scheduler id).mono (fun _ _ => And.right) fun _ _ => And.right

/-- The first number of a pool is looked up. -/
theorem reads_takeFirst (pool : IdPool) : Reads (takeFirst pool) := by
  intro scheduler
  exact (yields_takeFirst pool).mono (fun _ _ taken => taken.2.2) fun _ _ same => same

/-- The hardware is driven without a change of disable bits. -/
theorem idles_onBus {operation : Operation Bus α} (idles : Respects Bus.Idles operation) :
    Respects Idles (onBus operation) :=
  respects_focus idles fun _ _ hardware =>
    ⟨⟨⟨rfl, rfl, rfl, fun _ active => active, hardware.toStays⟩, rfl, rfl, fun _ => rfl⟩, rfl,
      hardware.disabled, fun sound => sound.elsewhere _ _ _⟩

/-- The channel of a slot after a change. -/
theorem getElem?_changed (change : Channel → Channel) (id other : Nat) :
    (changeChannel id change scheduler).2.channels[other]? =
      if id = other then scheduler.channels[other]?.map change
      else scheduler.channels[other]? :=
  Array.getElem?_modify

/-- A channel is changed that does not become active. -/
theorem alters_changeChannel (id : Nat) {change : Channel → Channel}
    (calm : ∀ channel, (change channel).state = .active → channel.state = .active) :
    Respects Alters (changeChannel id change) := by
  intro scheduler
  refine ⟨⟨rfl, rfl, rfl, fun other active => ?_, Std.Refl.refl _⟩, rfl, rfl⟩
  obtain ⟨channel, found, active⟩ := active
  rw [getElem?_changed] at found
  split at found
  · obtain ⟨earlier, held, rfl⟩ := Option.map_eq_some_iff.mp found
    exact ⟨earlier, held, calm earlier active⟩
  · exact ⟨channel, found, active⟩

/-- A channel is changed that does not become active and stays where it is. -/
theorem idles_changed {change : Channel → Channel}
    (calm : ∀ channel, (change channel).state = .active → channel.state = .active)
    (same : ∀ channel, scheduler.channels[id]? = some channel →
      (change channel).berth = channel.berth)
    (sound : ∀ {exact : Prop}, scheduler.Sound exact →
      (changeChannel id change scheduler).2.Sound exact) :
    Idles scheduler (changeChannel id change scheduler).2 := by
  have alters := alters_changeChannel id calm scheduler
  refine ⟨⟨alters.toStays, rfl, rfl, fun other => ?_⟩, rfl, rfl, sound⟩
  rw [getElem?_changed]
  split
  · subst ‹id = other›
    cases found : scheduler.channels[id]? with
    | none => rfl
    | some channel => exact congrArg some (same channel found)
  · rfl

/-- A channel is changed that keeps its seat. -/
theorem idles_changeChannel (id : Nat) {change : Channel → Channel}
    (same : ∀ channel, (change channel).seat = channel.seat) :
    Respects Idles (changeChannel id change) := by
  intro scheduler
  have state : ∀ channel, (change channel).state = channel.state := fun channel =>
    congrArg Seat.state (same channel)
  refine idles_changed (fun channel active => (state channel).symm.trans active)
    (fun channel _ => ?_) fun sound => ?_
  · unfold Channel.berth
    rw [state, show (change channel).group = channel.group from
      congrArg Seat.group (same channel)]
  · exact sound.same (sound.shaped.changeChannel change) (enrollment_changeChannel same)

/-- The references to a channel are counted. -/
theorem idles_countReferences (id : Nat) (count : Channel → UInt32) :
    Respects Idles (changeChannel id fun channel =>
      { channel with references := count channel }) :=
  idles_changeChannel id fun _ => rfl

/-- Status words of engines are read. -/
theorem idles_engineStatus (engine : Nat) : Respects Idles (engineStatus engine) :=
  (idles_onBus (Bus.idles_readSlot _ engine)).bind fun _ => respects_pure _

/-- Status words that are left alone are decoded as before. -/
theorem statusOf_of_reports {engine : Nat} (inRange : engine < 32)
    (reports : Bus.Reports before.machine.bus after.machine.bus) :
    after.statusOf engine = before.statusOf engine := by
  unfold statusOf
  rw [reports (Device.engineStatusOffset engine)
    (by unfold Device.engineStatusOffset; omega) (by unfold Device.engineStatusOffset; omega)]

/-- The status word of an engine is read as it stands. -/
theorem yields_statusOf {engine : Nat} (inRange : engine < 32) :
    (engineStatus engine).Yields scheduler
      (fun status after => status = scheduler.statusOf engine ∧ Idles scheduler after)
      fun _ _ => False := by
  have reads : (engineStatus engine).Yields scheduler
      (fun status _ => status = scheduler.statusOf engine) fun _ _ => False := by
    unfold engineStatus onBus
    rw [yields_bind, yields_focus]
    exact (Device.serves_engineStatus inRange).imp fun word _ served => congrArg _ served.1
  exact reads.also (idles_engineStatus engine)

/-- The status words of PBDMA units are read. -/
theorem idles_pbdmaStatus (unit : Nat) : Respects Idles (pbdmaStatus unit) :=
  (idles_onBus (Bus.idles_readSlot _ unit)).bind fun _ => respects_pure _

/-- A channel is marked faulted. -/
theorem idles_markFaulted (id : Nat) (reason : FaultReason) :
    Respects Idles (markFaulted id reason) := by
  intro scheduler
  refine related_bind (respects_get scheduler) fun read middle run => ?_
  cases run
  cases found : scheduler.channels[id]? with
  | none => exact Std.Refl.refl _
  | some channel =>
    dsimp only
    split
    · exact Std.Refl.refl _
    · rename_i live
      refine related_bind (idles_changed (fun _ impossible => ?_) (fun held holds => ?_)
        fun sound => sound.marked found live reason) fun _ _ _ => Std.Refl.refl _
      · cases impossible
      · rw [found, Option.some.injEq] at holds
        subst holds
        unfold Channel.berth
        rw [decide_eq_false live]
        rfl

/-- The channels of a target are marked faulted. -/
theorem idles_markTargetFaulted (target : Target) (reason : FaultReason) :
    Respects Idles (markTargetFaulted target reason) := by
  refine respects_get.bind fun read => respects_foldlM (fun any id => ?_) _ false
  exact (idles_markFaulted id reason).bind fun _ => respects_pure _

/-- The engines that run a target are found by reading. -/
theorem idles_enginesOn (target : Target) : Respects Idles (enginesOn target) := by
  refine respects_get.bind fun read => ?_
  refine (respects_filterM (fun engine => ?_) _).bind fun engines => respects_lift _
  exact (idles_engineStatus engine.id).bind fun _ => respects_pure _

/-- The hardware is waited for. -/
theorem idles_waitFor (timeout : Nat) {ask : Operation Bus Bool} (asks : Respects Bus.Idles ask) :
    Respects Idles (waitFor timeout ask) := by
  refine respects_get.bind fun read => ?_
  split
  · exact respects_pure _
  · exact idles_onBus (Backoff.respects_waitBy asks _ _ _)

/-- A list is waited for. -/
theorem idles_waitRunlist (list : Nat) : Respects Idles (waitRunlist list) :=
  respects_get.bind fun _ => idles_waitFor _ ((Device.idles_runlistPending list).map not)

/-- An event is posted. -/
theorem idles_notify (id : Nat) : Respects Idles (notify id) :=
  (reads_channelAt id).respects.bind fun _ => (respects_lift _).bind fun _ =>
    idles_changeChannel id fun _ => rfl

/-- An event is posted to every channel. -/
theorem idles_notifyAll : Respects Idles notifyAll := by
  refine respects_get.bind fun read => respects_forM (fun id => ?_) _
  refine (reads_channelAt id).respects.bind fun channel => ?_
  split
  · exact idles_notify id
  · exact respects_pure _

/-- A reference is taken. -/
theorem idles_retain (id : Nat) : Respects Idles (retain id) := by
  refine (reads_channel id).respects.bind fun channel => ?_
  dsimp only
  split
  · exact respects_refuse_bind _ _
  · split
    · exact respects_abort_bind _ _
    · exact idles_countReferences id _

/-- The hardware may take commands of a channel. -/
theorem idles_enableChannel (id : Nat) : Respects Idles (enableChannel id) := by
  refine (reads_channelAt id).respects.bind fun channel => ?_
  dsimp only
  split
  · exact respects_refuse_bind _ _
  · exact idles_onBus (Device.idles_enableChannel id)

/-- An engine is reset. -/
theorem idles_resetEngine (engine : Engine) : Respects Idles (resetEngine engine) :=
  idles_onBus (Device.idles_resetUnit engine.reset)

/-- Disable bits of runlists are set and cleared. -/
theorem drives_setSchedulerDisabled (runlists : UInt32) (disabled : Bool) :
    Respects Drives (setSchedulerDisabled runlists disabled) := by
  unfold setSchedulerDisabled
  split
  · exact respects_pure _
  · exact respects_focus (Device.stays_setSchedulerDisabled runlists disabled)
      fun _ _ hardware =>
        ⟨⟨rfl, rfl, rfl, fun _ active => active, hardware⟩, rfl, rfl, fun _ => rfl⟩

/-- The runlist of an engine is disabled or enabled. -/
theorem drives_setEngineDisabled (engine : Engine) (disabled : Bool) :
    Respects Drives (setEngineDisabled engine disabled) :=
  (respects_lift _).bind fun runlists => drives_setSchedulerDisabled runlists disabled

/-- The resets that wait are changed. -/
theorem drives_changeDeferred (change : Scheduler → List DeferredReset) :
    Respects Drives (modify fun scheduler =>
      { scheduler with deferred := change scheduler } : Operation Scheduler PUnit) :=
  respects_modify fun _ =>
    ⟨⟨rfl, rfl, rfl, fun _ active => active, Std.Refl.refl _⟩, rfl, rfl, fun _ => rfl⟩

/-- An engine is reset after a fault, or its reset is put off. -/
theorem drives_resetAfterFault (engine : Engine) (fault : MemoryFault) (forced : Bool)
    (target : Option Target) : Respects Drives (resetAfterFault engine fault forced target) := by
  refine respects_get.bind fun read => ?_
  split
  · rename_i target _
    exact drives_changeDeferred fun scheduler => scheduler.deferred ++ [⟨engine.id, target⟩]
  · exact drives_of_idles (idles_resetEngine engine)

/-- A fault is settled once its words have been read. -/
theorem drives_settleFault (forced : Option ForcedFault) (faultId : Nat) (targets : List Target)
    (words : FaultWords) : Respects Drives (settleFault forced faultId targets words) := by
  refine respects_get.bind fun read => ?_
  split
  · exact respects_pure _
  · rename_i engine _
    refine (drives_of_idles (idles_engineStatus engine.id)).bind fun status => ?_
    refine respects_get.bind fun read => (drives_resetAfterFault engine _ _ _).bind fun _ => ?_
    split
    · exact respects_pure _
    · exact (drives_of_idles (idles_markTargetFaulted _ _)).bind fun _ => respects_pure _

/-- One fault is serviced. -/
theorem drives_serviceFault (forced : Option ForcedFault) (faultId : Nat)
    (targets : List Target) : Respects Drives (serviceFault forced faultId targets) := by
  rw [serviceFault_eq]
  cases forced with
  | some fault => exact drives_settleFault (some fault) faultId targets {}
  | none =>
    exact (drives_of_idles (idles_onBus (Device.idles_faultWords faultId))).bind fun words =>
      drives_settleFault none faultId targets words

/-- The runlists that no waiting reset keeps disabled are enabled again. -/
theorem drives_enableRunlists (runlists : UInt32) :
    Respects Drives (do
      let held ← (← get).deferredRunlists
      setSchedulerDisabled (runlists &&& ~~~held) false : Operation Scheduler Unit) :=
  respects_get.bind fun _ => (respects_lift _).bind fun _ => drives_setSchedulerDisabled _ _

/-- Scheduling goes on once faults have been serviced. -/
theorem drives_resumeAfterFaults (forced : Option ForcedFault) (mask runlists : UInt32)
    (targets : List Target) : Respects Drives (resumeAfterFaults forced mask runlists targets) := by
  have resumes : Respects Drives (do
      let held ← (← get).deferredRunlists
      setSchedulerDisabled (runlists &&& ~~~held) false
      return targets : Operation Scheduler (List Target)) :=
    respects_get.bind fun _ => (respects_lift _).bind fun _ =>
      (drives_setSchedulerDisabled _ _).bind fun _ => respects_pure _
  unfold resumeAfterFaults
  split
  · refine (drives_of_idles (idles_onBus (Device.idles_clearFaults mask))).bind fun _ => ?_
    exact (drives_of_idles (idles_onBus Device.idles_resumeAfterFault)).bind fun _ => resumes
  · exact resumes

/-- The faults of a mask are serviced. -/
theorem drives_serviceFaults (forced : Option ForcedFault) (mask : UInt32) :
    Respects Drives (serviceFaults forced mask) := by
  unfold serviceFaults
  split
  · exact respects_pure _
  · refine respects_get.bind fun read => ?_
    refine (respects_filterM (fun engine => respects_lift _) _).bind fun engines => ?_
    refine (respects_lift _).bind fun runlists => ?_
    refine (drives_setSchedulerDisabled runlists true).bind fun _ => ?_
    refine Respects.bind ?_ fun targets => drives_resumeAfterFaults forced mask runlists targets
    exact respects_foldlM (fun targets faultId => drives_serviceFault forced faultId targets) _ _

/-- Faults are serviced. -/
theorem drives_handleFaults (forced : Option ForcedFault) :
    Respects Drives (handleFaults forced) := by
  rw [handleFaults_eq]
  cases forced with
  | some fault => exact drives_serviceFaults (some fault) fault.faults
  | none =>
    exact (drives_of_idles (idles_onBus (Bus.idles_read _))).bind fun mask =>
      drives_serviceFaults none mask

/-- The engines of a runlist are recovered. -/
theorem drives_recoverRunlistEngines (list : Nat) :
    Respects Drives (recoverRunlistEngines list) :=
  respects_get.bind fun _ => (respects_lift _).bind fun _ => drives_handleFaults _

/-- Resets that waited for a channel are run. -/
theorem drives_runDeferredResets (id : Nat) (group : Option Nat) :
    Respects Drives (runDeferredResets id group) := by
  refine respects_get.bind fun read => ?_
  dsimp only
  split
  · exact respects_pure _
  · have resets : ∀ engine, Respects Drives (resetEngine engine) := fun engine =>
      drives_of_idles (idles_resetEngine engine)
    refine (respects_forM resets _).bind fun _ => (respects_lift _).bind fun runlists => ?_
    exact (drives_changeDeferred _).bind fun _ => drives_enableRunlists runlists

/-- Parts of the scheduler beside the channels are changed. -/
theorem alters_of_same (config : after.config = before.config) (clock : after.clock = before.clock)
    (runlists : after.runlists = before.runlists) (channels : after.channels = before.channels)
    (deferred : after.deferred = before.deferred) (machine : after.machine = before.machine) :
    Alters before after := by
  refine ⟨⟨config, clock, runlists, fun id active => ?_, ?_⟩, deferred, by rw [machine]⟩
  · unfold ActiveAt at *
    rwa [channels] at active
  · rw [machine]
    exact Std.Refl.refl _

/-- A group is changed. -/
theorem alters_changeGroup (id : Nat) (change : Group → Group) :
    Respects Alters (changeGroup id change) :=
  respects_modify fun _ => alters_of_same rfl rfl rfl rfl rfl rfl

/-- The steps by which channels are bound and grouped respect a relation. -/
structure Enrolls (related : Scheduler → Scheduler → Prop) : Prop where
  idles : ∀ before after, Idles before after → related before after
  slots : ∀ pool : Scheduler → IdPool, Respects related
    (modify fun scheduler => { scheduler with freeChannels := pool scheduler } :
      Operation Scheduler PUnit)
  members : ∀ (groupId : Nat) (members : Group → List Nat), Respects related
    (changeGroup groupId fun group => { group with members := members group })
  channels : ∀ (id : Nat) {change : Channel → Channel},
    (∀ channel, (change channel).state = .active → channel.state = .active) →
      Respects related (changeChannel id change)

namespace Enrolls

variable {related : Scheduler → Scheduler → Prop} [IsPreorder Scheduler related]

/-- A slot is taken. -/
theorem takeSlot (enrolls : Enrolls related) (slot : Option Nat) :
    Respects related (Scheduler.takeSlot slot) := by
  cases slot with
  | none =>
    refine respects_get.bind fun read => (reads_takeFirst _).respects.bind fun taken => ?_
    exact (enrolls.slots fun _ => taken.2).bind fun _ => respects_pure _
  | some id =>
    refine (reads_channel id).respects.bind fun _ => respects_get.bind fun read => ?_
    split
    · exact respects_refuse_bind _ _
    · exact (enrolls.slots fun scheduler => scheduler.freeChannels.erase id).bind
        fun _ => respects_pure _

/-- A channel is bound. -/
theorem bind (enrolls : Enrolls related) (binding : Binding) :
    Respects related (Scheduler.bind binding) := by
  refine (reads_runlist _).respects.bind fun _ => (enrolls.takeSlot binding.slot).bind fun id => ?_
  refine (enrolls.channels id fun _ impossible => (by cases impossible)).bind fun _ => ?_
  have binds := idles_onBus (Device.idles_bindChannel id binding.instancePhysical)
  exact (binds.mono enrolls.idles).bind fun _ => respects_pure _

/-- A channel leaves its group. -/
theorem removeMember (enrolls : Enrolls related) (id groupId : Nat) :
    Respects related (Scheduler.removeMember id groupId) :=
  (reads_get.bind fun read => reads_entry read.groups groupId).respects.bind fun _ =>
    (enrolls.members groupId fun group => group.members.filter (· ≠ id)).bind fun _ =>
      enrolls.channels id fun _ active => active

/-- A channel leaves its group and its slot. -/
theorem leaveSlot (enrolls : Enrolls related) (id : Nat) (group : Option Nat) :
    Respects related (Scheduler.leaveSlot id group) := by
  have frees : Respects related (freeSlot id) := by
    refine ((idles_onBus (Device.idles_disableChannel id)).mono enrolls.idles).bind fun _ => ?_
    refine ((idles_onBus (Device.idles_unbindChannel id)).mono enrolls.idles).bind fun _ => ?_
    refine (enrolls.channels id fun _ impossible => (by cases impossible)).bind fun _ => ?_
    exact enrolls.slots fun scheduler => scheduler.freeChannels.insert id ()
  cases group with
  | none => exact frees
  | some groupId => exact (enrolls.removeMember id groupId).bind fun _ => frees

/-- A channel joins a group. -/
theorem joinGroup (enrolls : Enrolls related) (groupId id : Nat) :
    Respects related (Scheduler.joinGroup groupId id) := by
  refine (reads_group groupId).respects.bind fun group => ?_
  refine (reads_channelAt id).respects.bind fun channel => ?_
  refine (reads_runlist _).respects.bind fun _ => ?_
  dsimp only
  split
  · exact respects_refuse_bind _ _
  · split
    · exact respects_refuse_bind _ _
    · split
      · exact respects_refuse_bind _ _
      · exact (enrolls.members groupId fun group => group.members ++ [id]).bind fun _ =>
          enrolls.channels id fun _ active => active

end Enrolls

/-- Binding and grouping make no channel active. -/
theorem enrolls_alters : Enrolls Alters where
  idles := fun _ _ => Idles.toAlters
  slots := fun _ => respects_modify fun _ => alters_of_same rfl rfl rfl rfl rfl rfl
  members := fun groupId _ => alters_changeGroup groupId _
  channels := alters_changeChannel

/-- A channel is bound. -/
theorem alters_bind (binding : Binding) : Respects Alters (Scheduler.bind binding) :=
  enrolls_alters.bind binding

/-- A channel leaves its group. -/
theorem alters_removeMember (id groupId : Nat) : Respects Alters (removeMember id groupId) :=
  enrolls_alters.removeMember id groupId

/-- A channel leaves its group and its slot. -/
theorem alters_leaveSlot (id : Nat) (group : Option Nat) :
    Respects Alters (leaveSlot id group) :=
  enrolls_alters.leaveSlot id group

/-- A channel joins a group. -/
theorem alters_joinGroup (groupId id : Nat) : Respects Alters (joinGroup groupId id) :=
  enrolls_alters.joinGroup groupId id

/-- A group is set up. -/
theorem alters_createGroup (list : Nat) : Respects Alters (createGroup list) := by
  have takes : ∀ pool : IdPool, Respects Alters
      (modify fun scheduler => { scheduler with freeGroups := pool }) :=
    fun _ => respects_modify fun _ => alters_of_same rfl rfl rfl rfl rfl rfl
  refine (reads_runlist list).respects.bind fun _ => respects_get.bind fun read => ?_
  refine (reads_takeFirst _).respects.bind fun taken => (takes taken.2).bind fun _ => ?_
  exact respects_get.bind fun _ => (alters_changeGroup taken.1 _).bind fun _ => respects_pure _

/-- A group is given up. -/
theorem alters_destroyGroup (groupId : Nat) : Respects Alters (destroyGroup groupId) := by
  refine (reads_group groupId).respects.bind fun group => ?_
  dsimp only
  split
  · exact respects_refuse_bind _ _
  · refine (alters_changeGroup groupId _).bind fun _ => ?_
    exact respects_modify fun _ => alters_of_same rfl rfl rfl rfl rfl rfl

/-- The timeslice of a group is set. -/
theorem alters_setTimeslice (groupId : Nat) (timeslice : Timeslice) :
    Respects Alters (setTimeslice groupId timeslice) :=
  (reads_group groupId).respects.bind fun _ => alters_changeGroup groupId _

end Scheduler

end GpuSched
