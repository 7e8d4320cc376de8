import GpuSched.Proofs.Scheduler.Sessions

/-!
# Isolation of faults

An interrupt implicates the contexts that its sources name in the registers. Servicing it faults the
channels of these contexts and takes them off their runlists, whatever the registers hold and
however it ends. All other channels keep their states, faults, groups and places in active sets.
-/
namespace GpuSched

open Operation

namespace Scheduler

variable {exact : Prop} {scheduler before after : Scheduler} {status : UInt32} {id : Nat}
  {target : Target}

/-- An instance pointer names a channel: the channel is in use, it has an instance block, and the
block lies in the page that the pointer holds, as far as a pointer holds it. -/
def NamedBy (scheduler : Scheduler) (inst : UInt32) (id : Nat) : Prop :=
  ∃ channel, scheduler.channels[id]? = some channel ∧ channel.state ≠ .free ∧
    channel.instancePhysical ≠ 0 ∧
      UInt32.ofNat (channel.instancePhysical >>> 12) &&& 0x0fffffff = inst &&& 0x0fffffff

/-- The contexts that the sources of an interrupt name, by the registers as they are. A source whose
bit is not in the status word names nothing. -/
inductive Implicated (scheduler : Scheduler) (status : UInt32) : Target → Prop where
  /-- The scheduler reports a context switch that does not end: what each engine that is busy
  switching is blamed for. -/
  | switching {engine : Engine} {target : Target}
      (reported : status &&& Interrupt.schedulerError ≠ 0)
      (timeout : scheduler.machine.bus.word Register.schedulerError = Register.switchTimeoutCode)
      (mem : engine ∈ scheduler.config.engines)
      (busy : (scheduler.statusOf engine.id).busy = true)
      (switches : (scheduler.statusOf engine.id).context.switching = true)
      (blames : (scheduler.statusOf engine.id).faulting = some target) :
      Implicated scheduler status target
  /-- A memory fault of some engine is pending, and its instance pointer names channels: the one
  with the lowest number. -/
  | named {faultId id : Nat} {engine : Engine}
      (reported : status &&& Interrupt.memoryFault ≠ 0)
      (pending : (scheduler.machine.bus.word Register.faultPending).toNat.testBit faultId = true)
      (mem : engine ∈ scheduler.config.engines) (faults : engine.faultId = faultId)
      (names : scheduler.NamedBy (Device.latchedWords scheduler.machine.bus faultId).inst id)
      (least : ∀ other < id,
        ¬scheduler.NamedBy (Device.latchedWords scheduler.machine.bus faultId).inst other) :
      Implicated scheduler status (.channel id)
  /-- A memory fault of some engine is pending, and its instance pointer names no channel: what the
  first engine with the fault is blamed for. -/
  | unnamed {faultId : Nat} {engine : Engine} {target : Target}
      (reported : status &&& Interrupt.memoryFault ≠ 0)
      (pending : (scheduler.machine.bus.word Register.faultPending).toNat.testBit faultId = true)
      (first : scheduler.config.engines.find? (·.faultId = faultId) = some engine)
      (nameless : ∀ id,
        ¬scheduler.NamedBy (Device.latchedWords scheduler.machine.bus faultId).inst id)
      (blames : (scheduler.statusOf engine.id).faulting = some target) :
      Implicated scheduler status target
  /-- A PBDMA with an unusable command stream is pending: the context that occupies it. -/
  | pbdma {unit : Nat} {target : Target}
      (reported : status &&& Interrupt.pbdma ≠ 0)
      (pending : (scheduler.machine.bus.word Register.pbdmaPending).toNat.testBit unit = true)
      (unusable : scheduler.pbdmaInterruptsOf unit &&& Register.pbdmaDeviceMask ≠ 0)
      (occupies : (scheduler.pbdmaStatusOf unit).resident = some target) :
      Implicated scheduler status target

/-- The channels that a context covers. A channel inside a group stands for the group. -/
inductive Covers (scheduler : Scheduler) : Target → Nat → Prop where
  /-- A channel without a group, or none that there is. -/
  | alone {id : Nat}
      (ungrouped : ∀ channel, scheduler.channels[id]? = some channel → channel.group = none) :
      Covers scheduler (.channel id) id
  /-- The members of the group of a channel. -/
  | fellow {named id groupId : Nat} {channel : Channel} {group : Group}
      (found : scheduler.channels[named]? = some channel) (grouped : channel.group = some groupId)
      (foundGroup : scheduler.groups[groupId]? = some group) (mem : id ∈ group.members) :
      Covers scheduler (.channel named) id
  /-- The members of a group. -/
  | member {groupId id : Nat} {group : Group}
      (foundGroup : scheduler.groups[groupId]? = some group) (mem : id ∈ group.members) :
      Covers scheduler (.group groupId) id

/-- The channels of the contexts that an interrupt implicates. -/
def struckChannels (scheduler : Scheduler) (status : UInt32) : Set Nat :=
  {id | ∃ target, scheduler.Implicated status target ∧ scheduler.Covers target id}

/-- A channel in a group counts as the group. -/
theorem normalize_of_grouped {groupId : Nat} {channel : Channel}
    (found : scheduler.channels[id]? = some channel) (grouped : channel.group = some groupId) :
    scheduler.normalize (.channel id) = .group groupId := by
  unfold normalize Channel.faultTarget
  dsimp only
  rw [found, Option.map_some, Option.getD_some, grouped]

/-- A channel without a group counts as itself. -/
theorem normalize_of_ungrouped
    (ungrouped : ∀ channel, scheduler.channels[id]? = some channel → channel.group = none) :
    scheduler.normalize (.channel id) = .channel id := by
  unfold normalize Channel.faultTarget
  dsimp only
  cases found : scheduler.channels[id]? with
  | none => rfl
  | some channel => rw [Option.map_some, Option.getD_some, ungrouped channel found]

/-- What a context covers is what is stopped when it is recovered. -/
theorem covers_iff : scheduler.Covers target id ↔ id ∈ scheduler.contextOf target := by
  constructor
  · intro covers
    change id ∈ scheduler.targetChannels (scheduler.normalize target)
    cases covers with
    | alone ungrouped =>
      rw [normalize_of_ungrouped ungrouped]
      exact List.mem_singleton_self id
    | fellow found grouped foundGroup mem =>
      rw [normalize_of_grouped found grouped]
      exact mem_targetChannels_group.mpr ⟨_, foundGroup, mem⟩
    | member foundGroup mem => exact mem_targetChannels_group.mpr ⟨_, foundGroup, mem⟩
  · intro mem
    change id ∈ scheduler.targetChannels (scheduler.normalize target) at mem
    cases target with
    | group groupId =>
      obtain ⟨group, foundGroup, mem⟩ := mem_targetChannels_group.mp mem
      exact .member foundGroup mem
    | channel named =>
      by_cases inGroup : ∃ channel groupId, scheduler.channels[named]? = some channel ∧
          channel.group = some groupId
      · obtain ⟨channel, groupId, found, grouped⟩ := inGroup
        rw [normalize_of_grouped found grouped] at mem
        obtain ⟨group, foundGroup, mem⟩ := mem_targetChannels_group.mp mem
        exact .fellow found grouped foundGroup mem
      · have ungrouped : ∀ channel, scheduler.channels[named]? = some channel →
            channel.group = none := by
          intro channel found
          refine Option.eq_none_iff_forall_ne_some.mpr fun groupId grouped => ?_
          exact inGroup ⟨channel, groupId, found, grouped⟩
        rw [normalize_of_ungrouped ungrouped] at mem
        cases List.mem_singleton.mp mem
        exact .alone ungrouped

/-- The search by instance pointer tests whether the pointer names the channel. -/
theorem namedBy_iff {inst : UInt32} :
    scheduler.NamedBy inst id ↔ ∃ channel, scheduler.channels[id]? = some channel ∧
      (decide (channel.state ≠ .free) && decide (channel.instancePhysical ≠ 0) &&
        decide (Device.instancePointer channel.instancePhysical =
          inst &&& Register.instancePageMask)) = true := by
  have page : ∀ physical : Nat, physical >>> 12 = physical / Register.pageSize := fun physical =>
    Nat.shiftRight_eq_div_pow physical 12
  unfold NamedBy Device.instancePointer
  simp only [Bool.and_eq_true, decide_eq_true_eq, and_assoc, page]
  rfl

/-- An instance pointer leads to the channel with the lowest number that it names. -/
theorem channelByInstance?_eq_some_iff {inst : UInt32} :
    scheduler.channelByInstance? inst = some id ↔
      scheduler.NamedBy inst id ∧ ∀ other < id, ¬scheduler.NamedBy inst other := by
  unfold channelByInstance?
  rw [Array.findIdx?_eq_some_iff_getElem]
  constructor
  · rintro ⟨inTable, names, least⟩
    refine ⟨namedBy_iff.mpr ⟨_, Array.getElem?_eq_getElem inTable, names⟩, ?_⟩
    rintro other before named
    obtain ⟨channel, found, tests⟩ := namedBy_iff.mp named
    obtain ⟨_, rfl⟩ := Array.getElem?_eq_some_iff.mp found
    exact least other before tests
  · rintro ⟨named, least⟩
    obtain ⟨channel, found, tests⟩ := namedBy_iff.mp named
    obtain ⟨inTable, rfl⟩ := Array.getElem?_eq_some_iff.mp found
    refine ⟨inTable, tests, fun other before tests => ?_⟩
    exact least other before (namedBy_iff.mpr ⟨_, Array.getElem?_eq_getElem _, tests⟩)

/-- An instance pointer leads to no channel where it names none. -/
theorem channelByInstance?_eq_none_iff {inst : UInt32} :
    scheduler.channelByInstance? inst = none ↔ ∀ id, ¬scheduler.NamedBy inst id := by
  unfold channelByInstance?
  rw [Array.findIdx?_eq_none_iff]
  constructor
  · rintro fails id named
    obtain ⟨channel, found, tests⟩ := namedBy_iff.mp named
    cases tests.symm.trans (fails channel (Array.mem_of_getElem? found))
  · intro nameless channel mem
    obtain ⟨id, found⟩ := Array.mem_iff_getElem?.mp mem
    exact Bool.eq_false_iff.mpr fun tests => nameless id (namedBy_iff.mpr ⟨channel, found, tests⟩)

/-- A unit in the middle of a switch is blamed for something. -/
theorem exists_faulting {unit : UnitStatus} (switches : unit.context.switching = true) :
    ∃ target, unit.faulting = some target := by
  unfold ContextState.switching at switches
  unfold UnitStatus.faulting
  split at switches <;> simp_all

/-- Some engine is the first one with the fault of an engine. -/
theorem exists_first {engine : Engine} (mem : engine ∈ scheduler.config.engines) :
    ∃ first, scheduler.config.engines.find? (·.faultId = engine.faultId) = some first := by
  refine Option.isSome_iff_exists.mp (List.find?_isSome.mpr ⟨engine, mem, ?_⟩)
  exact decide_eq_true rfl

/-- An engine is recovered with the context that its status word blames. -/
theorem engineContext_of_faulting {engine : Engine} (mem : engine ∈ scheduler.config.engines)
    (blames : (scheduler.statusOf engine.id).faulting = some target) :
    scheduler.engineContext engine = scheduler.contextOf target := by
  obtain ⟨first, finds⟩ := exists_first mem
  unfold engineContext blamedOr
  rw [finds, blames]
  ext id
  simp [contextOf]

/-- A fault of an engine is blamed on the context that it names, as a group where it has one. -/
theorem blamed_eq_some_iff {faultId : Nat} {context : Target} :
    scheduler.blamed none faultId = some context ↔
      ∃ engine, scheduler.config.engines.find? (·.faultId = faultId) = some engine ∧
        ∃ target, ((scheduler.channelByInstance?
            (Device.latchedWords scheduler.machine.bus faultId).inst).map .channel <|>
          (scheduler.statusOf engine.id).faulting) = some target ∧
            scheduler.normalize target = context := by
  unfold blamed blamedOr named faultOwner?
  cases scheduler.config.engines.find? (·.faultId = faultId) with
  | none => simp
  | some engine =>
    cases scheduler.channelByInstance?
        (Device.latchedWords scheduler.machine.bus faultId).inst with
    | none => simp
    | some id => simp [normalize_normalize]

/-- What a reported fault is blamed on is implicated. -/
theorem exists_implicated {faultId : Nat} {context : Target}
    (reported : status &&& Interrupt.memoryFault ≠ 0)
    (pending : (scheduler.machine.bus.word Register.faultPending).toNat.testBit faultId = true)
    (blames : scheduler.blamed none faultId = some context) :
    ∃ target, scheduler.Implicated status target ∧ scheduler.normalize target = context := by
  obtain ⟨engine, first, target, names, rfl⟩ := blamed_eq_some_iff.mp blames
  refine ⟨target, ?_, rfl⟩
  cases search : scheduler.channelByInstance?
      (Device.latchedWords scheduler.machine.bus faultId).inst with
  | some id =>
    obtain ⟨named, least⟩ := channelByInstance?_eq_some_iff.mp search
    rw [search] at names
    cases names
    have mem := List.mem_of_find?_eq_some first
    have faults : engine.faultId = faultId := by simpa using List.find?_some first
    exact .named reported pending mem faults named least
  | none =>
    rw [search] at names
    exact .unnamed reported pending first (channelByInstance?_eq_none_iff.mp search) names

/-- A fault is blamed on the channel with the lowest number that its instance pointer names. -/
theorem blamed_of_named {engine : Engine} (mem : engine ∈ scheduler.config.engines)
    (names : scheduler.NamedBy (Device.latchedWords scheduler.machine.bus engine.faultId).inst id)
    (least : ∀ other < id,
      ¬scheduler.NamedBy (Device.latchedWords scheduler.machine.bus engine.faultId).inst other) :
    scheduler.blamed none engine.faultId = some (scheduler.normalize (.channel id)) := by
  obtain ⟨first, finds⟩ := exists_first mem
  refine blamed_eq_some_iff.mpr ⟨first, finds, .channel id, ?_, rfl⟩
  rw [channelByInstance?_eq_some_iff.mpr ⟨names, least⟩]
  rfl

/-- A fault whose instance pointer names no channel is blamed on what its first engine is blamed
for. -/
theorem blamed_of_unnamed {engine : Engine} {faultId : Nat}
    (first : scheduler.config.engines.find? (·.faultId = faultId) = some engine)
    (nameless : ∀ id,
      ¬scheduler.NamedBy (Device.latchedWords scheduler.machine.bus faultId).inst id)
    (blames : (scheduler.statusOf engine.id).faulting = some target) :
    scheduler.blamed none faultId = some (scheduler.normalize target) := by
  refine blamed_eq_some_iff.mpr ⟨engine, first, target, ?_, rfl⟩
  rw [channelByInstance?_eq_none_iff.mpr nameless, blames]
  rfl

/-- What servicing an interrupt stops are the channels of the implicated contexts. -/
theorem interruptContexts_eq (scheduler : Scheduler) (status : UInt32) :
    scheduler.interruptContexts status = scheduler.struckChannels status := by
  ext id
  constructor
  · rintro ((⟨reported, timeout, engine, mem, busy, switches, context⟩ |
      ⟨reported, faultId, pending, context, blames, covers⟩) |
      ⟨reported, unit, pending, unusable, target, occupies, covers⟩)
    · obtain ⟨target, blames⟩ := exists_faulting switches
      rw [engineContext_of_faulting mem blames] at context
      exact ⟨target, .switching reported timeout mem busy switches blames, covers_iff.mpr context⟩
    · have set := Simulation.mem_setBits_iff_testBit.mp pending
      obtain ⟨target, implicated, rfl⟩ := exists_implicated reported set blames
      exact ⟨target, implicated, covers_iff.mpr covers⟩
    · have set := Simulation.mem_setBits_iff_testBit.mp pending
      exact ⟨target, .pbdma reported set unusable occupies, covers_iff.mpr covers⟩
  · rintro ⟨target, implicated, covers⟩
    have context := covers_iff.mp covers
    cases implicated with
    | switching reported timeout mem busy switches blames =>
      rw [← engineContext_of_faulting mem blames] at context
      exact .inl (.inl ⟨reported, timeout, _, mem, busy, switches, context⟩)
    | named reported pending mem faults names least =>
      subst faults
      have listed := Simulation.mem_setBits_iff_testBit.mpr pending
      have blames := blamed_of_named mem names least
      exact .inl (.inr ⟨reported, _, listed, _, blames, context⟩)
    | unnamed reported pending first nameless blames =>
      have listed := Simulation.mem_setBits_iff_testBit.mpr pending
      have blames := blamed_of_unnamed first nameless blames
      exact .inl (.inr ⟨reported, _, listed, _, blames, context⟩)
    | pbdma reported pending unusable occupies =>
      have listed := Simulation.mem_setBits_iff_testBit.mpr pending
      exact .inr ⟨reported, _, listed, unusable, target, occupies, context⟩

/-- Some channels are faulted and stopped, as far as they are in use, and nothing else happens to a
channel or to the members of a group. -/
structure Isolated (struck : Set Nat) (before after : Scheduler) : Prop where
  /-- A struck channel in use ends faulted, in no active set. -/
  faulted : ∀ (id : Nat) (channel : Channel), before.channels[id]? = some channel →
    channel.state ≠ .free → id ∈ struck →
      after.channels[id]?.map (·.state) = some .faulted ∧
        ∀ runlist, after.activeOn runlist id = false
  /-- Every other channel keeps its state, its fault, its group and its active sets. -/
  spared : ∀ (id : Nat) (channel : Channel), before.channels[id]? = some channel →
    channel.state = .free ∨ id ∉ struck →
      (∃ kept, after.channels[id]? = some kept ∧ kept.state = channel.state ∧
        kept.fault = channel.fault ∧ kept.group = channel.group) ∧
        ∀ runlist, after.activeOn runlist id = before.activeOn runlist id
  /-- The members of the groups stay. -/
  members : ∀ id : Nat, after.groups[id]?.map (·.members) = before.groups[id]?.map (·.members)

/-- Stopping channels and posting events isolates those that are stopped. -/
theorem isolated_of_stops {touched struck : Set Nat} {stopped : Scheduler}
    (sound : before.Sound exact) (soundStopped : stopped.Sound exact)
    (stops : Stops touched struck struck before stopped) (notified : Notified stopped after) :
    Isolated struck before after := by
  have active : ∀ runlist id, after.activeOn runlist id = stopped.activeOn runlist id := by
    intro runlist id
    unfold activeOn
    rw [notified.runlists]
  refine ⟨fun id channel found live mem => ⟨?_, fun runlist => ?_⟩,
    fun id channel found apart => ⟨?_, fun runlist => ?_⟩, fun id => ?_⟩
  · obtain ⟨held, holds, core⟩ := stops.toSteady.channel_found found
    obtain ⟨last, foundLast, silent⟩ := notified.channel_found holds
    have inUse : held.state ≠ .free := fun free => live ((state_eq_free_iff core).mp free)
    have same : last.state = held.state := congrArg (·.state) silent
    rw [foundLast, Option.map_some, same, stops.faulted mem holds inUse]
  · rw [active]
    exact stops.drops mem
  · have holds := stops.spared found apart.symm
    obtain ⟨last, foundLast, silent⟩ := notified.channel_found holds
    exact ⟨last, foundLast, congrArg (·.state) silent, congrArg (·.fault) silent,
      congrArg (·.group) silent⟩
  · rw [active]
    rcases apart with free | outside
    · have idle : id ∉ before.inUse := by
        rintro ⟨held, holds, inUse⟩
        rw [found, Option.some.injEq] at holds
        exact inUse (holds ▸ free)
      rw [off_of_not_inUse sound idle]
      refine off_of_not_inUse soundStopped ?_ runlist
      rw [stops.toSteady.inUse]
      exact idle
    · exact stops.stays outside
  · rw [notified.groups]
    have same := congrArg (Option.map Group.members) (stops.toSteady.group id)
    rw [Option.map_map, Option.map_map] at same
    exact same

/-- Servicing an interrupt isolates the channels that it strikes, however it ends. -/
theorem Sound.isolated (sound : scheduler.Sound exact) (status : UInt32) :
    Isolated (scheduler.struckChannels status) scheduler
      (handleInterrupts status scheduler).2 := by
  have runs := yields_handleInterrupts sound status
  rw [interruptContexts_eq] at runs
  refine Yields.holds (runs.mono ?_ ?_)
  · exact fun _ _ ⟨_, soundStopped, stops, notified⟩ =>
      isolated_of_stops sound soundStopped stops notified
  · exact fun _ _ ⟨_, _, soundStopped, stops, notified⟩ =>
      isolated_of_stops sound soundStopped stops notified

end Scheduler

namespace Session

variable {config : Config} {machine : Machine} {session : Session}

/-- Whatever the registers hold when an interrupt of a reached scheduler is serviced, and whatever
its status word is, the channels of the contexts that it implicates are faulted and stopped, and no
others. -/
theorem reached_isolated (reached : Reached config machine (fun _ => True) session) (bus : Bus)
    (status : UInt32) :
    let scheduler : Scheduler :=
      { session.scheduler with machine := { session.scheduler.machine with bus } }
    Scheduler.Isolated (scheduler.struckChannels status) scheduler
      (Scheduler.handleInterrupts status scheduler).2 := by
  have intact := (reached.intact False fun _ _ _ impossible => impossible.elim).1
  intro scheduler
  have sound : scheduler.Sound False := intact.sound.elsewhere _ _ _
  exact sound.isolated status

/-- A fault of the engine carries an instance pointer that two channels share, with bits beside the
page, while the engine runs a third channel. The channel with the lower number is struck with the
other member of its group, and the others stay active. -/
theorem isolated_of_group_fault : ∃ session,
    Reached { oneEngine with channelCount := 4 } poweredUp (fun _ => True) session ∧
      Scheduler.Isolated (session.scheduler.struckChannels Interrupt.memoryFault)
        session.scheduler
        (Scheduler.handleInterrupts Interrupt.memoryFault session.scheduler).2 ∧
      (session.scheduler.statusOf 0).faulting = some (.channel 3) ∧
      session.scheduler.channels.map (fun channel => (channel.instancePhysical, channel.group)) =
        #[(0x5000, some 0), (0x6000, some 0), (0x5000, none), (0x7000, none)] ∧
      (Device.latchedWords session.scheduler.machine.bus 0).inst = 0xf0000005 ∧
      (Scheduler.handleInterrupts Interrupt.memoryFault session.scheduler).2.channels.map
        (·.state) = #[.faulted, .faulted, .active, .active] := by
  let requests : List Request :=
    [.bind 0 { runlist := 0, instancePhysical := 0x5000 },
      .bind 1 { runlist := 0, instancePhysical := 0x6000 },
      .bind 2 { runlist := 0, instancePhysical := 0x5000 },
      .bind 3 { runlist := 0, instancePhysical := 0x7000 }, .createGroup 0, .join 0 0, .join 1 0,
      .update 0 (some 0) true true, .update 0 (some 1) true true, .update 0 (some 2) true true,
      .update 0 (some 3) true true, .inject (.engineStatus 0 (.running (.channel 3))),
      .inject (.fault 0 { inst := 0xf0000005 })]
  have outcome : (Scheduler.create { oneEngine with channelCount := 4 } poweredUp).toOption.map
      (fun scheduler =>
        let reached := (performAll { scheduler } requests).scheduler
        decide ((reached.statusOf 0).faulting = some (.channel 3) ∧
          reached.channels.map (fun channel => (channel.instancePhysical, channel.group)) =
            #[(0x5000, some 0), (0x6000, some 0), (0x5000, none), (0x7000, none)] ∧
          (Device.latchedWords reached.machine.bus 0).inst = 0xf0000005 ∧
          (Scheduler.handleInterrupts Interrupt.memoryFault reached).2.channels.map (·.state) =
            #[.faulted, .faulted, .active, .active])) = some true := by decide +kernel
  obtain ⟨scheduler, created, holds⟩ := exists_created outcome
  dsimp only at holds
  generalize last : performAll { scheduler } requests = session at holds
  have reached :
      Reached { oneEngine with channelCount := 4 } poweredUp (fun _ => True) session := by
    rw [← last]
    exact (Reached.created created).performAll fun _ _ => trivial
  refine ⟨session, reached, ?_, decide_eq_true_iff.mp holds⟩
  exact reached_isolated reached session.scheduler.machine.bus Interrupt.memoryFault

end Session

end GpuSched
