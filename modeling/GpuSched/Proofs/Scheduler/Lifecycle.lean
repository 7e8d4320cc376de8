import GpuSched.Proofs.Scheduler.Activity
import GpuSched.Scheduler.Channel

/-!
# Life of channels and groups

Binding and releasing channels, joining and leaving groups, and the acknowledgement of faults change
the memberships, each by one of the changes of `Enrollment`. A channel is taken off its runlist
before it leaves its group or its slot; on trusted hardware an update with a wait leaves no faulted
channel behind on a runlist, so the counters of the groups stay right.
-/
namespace GpuSched

open Operation

/-- The first number of a pool is in the pool. -/
theorem IdPool.contains_of_first? {pool : IdPool} {id : Nat} (first : pool.first? = some id) :
    pool.contains id = true := by
  unfold IdPool.first? at first
  unfold Table.contains Table.find?
  cases entries : pool.entries with
  | nil =>
    rw [entries] at first
    cases first
  | cons entry rest =>
    rw [entries, List.head?_cons, Option.map_some, Option.some.injEq] at first
    simp [Table.lookup, first]

namespace Scheduler

variable {exact : Prop} {scheduler before middle after : Scheduler} {id groupId runlistId : Nat}
  {channel : Channel} {group : Group} {runlist : Runlist} {α β : Type}

/-- Changing a channel without its seat changes no membership. -/
theorem enrollment_changeChannel {change : Channel → Channel}
    (same : ∀ channel, (change channel).seat = channel.seat) :
    ({ scheduler with channels := scheduler.channels.modify id change }).enrollment =
      scheduler.enrollment := by
  unfold enrollment
  congr 1
  funext other
  rw [Array.getElem?_modify]
  split
  · cases scheduler.channels[other]? with
    | none => rfl
    | some channel => exact congrArg some (same channel)
  · rfl

/-- Changing a channel without its seat keeps a scheduler intact. -/
theorem Intact.changeChannel (intact : scheduler.Intact exact) {change : Channel → Channel}
    (same : ∀ channel, (change channel).seat = channel.seat) :
    ({ scheduler with channels := scheduler.channels.modify id change }).Intact exact :=
  intact.same (intact.sound.shaped.changeChannel change) (enrollment_changeChannel same)

/-- Changing a channel without its seat keeps a scheduler intact. -/
theorem keeps_changeChannel (intact : scheduler.Intact exact) {change : Channel → Channel}
    (same : ∀ channel, (change channel).seat = channel.seat) :
    Keeps exact (changeChannel id change) scheduler :=
  ⟨intact.changeChannel same, rfl⟩

/-- Changing a channel without its seat keeps hardware trusted. -/
theorem Trusted.changeChannel (trusted : scheduler.Trusted) {change : Channel → Channel}
    (same : ∀ channel, (change channel).seat = channel.seat) :
    ({ scheduler with channels := scheduler.channels.modify id change }).Trusted := by
  refine ⟨trusted.distinct, fun engine mem target blames => ?_⟩
  have on := trusted.honest engine mem target blames
  cases target with
  | group groupId => exact on
  | channel other =>
    intro changed found live
    rw [Array.getElem?_modify] at found
    split at found
    · obtain ⟨held, holds, rfl⟩ := Option.map_eq_some_iff.mp found
      have runlist : (change held).runlist = held.runlist := congrArg Seat.runlist (same held)
      have state : (change held).state = held.state := congrArg Seat.state (same held)
      rw [runlist]
      exact on held holds (state ▸ live)
    · exact on changed found live

/-- Driving the hardware before the rest. -/
theorem keeps_onBus_bind {operation : Operation Bus α} {next : α → Operation Scheduler β}
    (intact : scheduler.Intact exact)
    (rest : ∀ value bus, let driven : Scheduler :=
      { scheduler with machine := { scheduler.machine with bus } }
      driven.Intact exact → Keeps exact (next value) driven) :
    Keeps exact (onBus operation >>= next) scheduler := by
  unfold Keeps onBus
  rw [yields_bind, yields_focus]
  exact yields_of_forall (fun value bus => rest value bus (intact.elsewhere _ _ _))
    fun _ _ => ⟨intact.elsewhere _ _ _, rfl⟩

/-- The first number of a pool is taken, if there is one. -/
theorem yields_takeFirst (pool : IdPool) :
    (takeFirst pool).Yields scheduler
      (fun taken after => pool.contains taken.1 = true ∧ taken.2 = pool.erase taken.1 ∧
        after = scheduler)
      fun _ after => after = scheduler := by
  unfold takeFirst
  cases first : pool.first? with
  | none => rfl
  | some id => exact ⟨IdPool.contains_of_first? first, rfl, rfl⟩

/-- The slot that is taken is free, and is taken out of the pool. -/
theorem yields_takeSlot (slot : Option Nat) :
    (takeSlot slot).Yields scheduler
      (fun id after => scheduler.freeChannels.contains id = true ∧
        after = { scheduler with freeChannels := scheduler.freeChannels.erase id })
      fun _ after => after = scheduler := by
  unfold takeSlot
  cases slot with
  | none =>
    dsimp only
    rw [yields_bind, yields_get, yields_bind]
    refine (yields_takeFirst scheduler.freeChannels).mono ?_ fun _ _ same => same
    rintro ⟨id, rest⟩ _ ⟨free, same, rfl⟩
    dsimp only at same
    subst same
    exact ⟨free, rfl⟩
  | some id =>
    dsimp only
    rw [yields_bind]
    refine (reads_channel id scheduler).mono ?_ fun _ _ same => same
    rintro channel _ rfl
    rw [yields_bind, yields_get]
    split
    · rfl
    · rename_i free
      exact ⟨by simpa using free, rfl⟩

/-- Binding a channel keeps a scheduler intact. -/
theorem keeps_bind (intact : scheduler.Intact exact) (binding : Binding) :
    Keeps exact (Scheduler.bind binding) scheduler := by
  unfold Keeps Scheduler.bind
  rw [yields_bind, yields_runlist]
  cases there : scheduler.runlists.find? binding.runlist with
  | none => exact ⟨intact, rfl⟩
  | some runlist =>
    dsimp only
    rw [yields_bind]
    refine (yields_takeSlot binding.slot).mono ?_ ?_
    · rintro id _ ⟨free, rfl⟩
      let bound : Channel :=
        { references := 1, state := .bound, runlist := binding.runlist, space := binding.space,
          instancePhysical := binding.instancePhysical }
      let taken : Scheduler := { scheduler with freeChannels := scheduler.freeChannels.erase id }
      obtain ⟨_, holds, _⟩ := intact.sound.consistent.freeChannel.mp free
      obtain ⟨channel, found, rfl⟩ := Option.map_eq_some_iff.mp holds
      have foundTaken : taken.channels[id]? = some channel := found
      have shaped : taken.Shaped := intact.sound.shaped.same rfl rfl rfl rfl rfl
      have listed : scheduler.enrollment.listed binding.runlist = true := contains_of_find? there
      have changed : ({ taken with
          channels := taken.channels.modify id fun _ => bound }).enrollment =
            (scheduler.enrollment.setFreeChannel id false).setSeat id bound.seat := by
        rw [enrollment_channel foundTaken, enrollment_freeChannels_erase]
      have kept : ({ taken with
          channels := taken.channels.modify id fun _ => bound }).Intact exact := by
        refine ⟨⟨shaped.changeChannel _, ?_, fun holds => ?_⟩, fun holds => ?_⟩
        · rw [changed]
          exact intact.sound.consistent.bind free listed
        · rw [changed]
          exact (intact.sound.counted holds).setFreeChannel.setSeat
        · rw [changed]
          have before : (scheduler.enrollment.setFreeChannel id false).Stopped :=
            intact.stopped holds
          exact before.setSeat fun faulted => by cases faulted
      unfold changeChannel
      rw [yields_bind, yields_modify]
      exact keeps_onBus_bind kept fun _ _ intact => keeps_pure intact id
    · rintro _ _ rfl
      exact ⟨intact, rfl⟩

/-- Taking a reference keeps a scheduler intact. -/
theorem keeps_retain (intact : scheduler.Intact exact) (id : Nat) :
    Keeps exact (retain id) scheduler := by
  refine ((reads_channel id).keeps intact).bind fun channel _ intact _ => ?_
  dsimp only
  split
  · exact ⟨intact, rfl⟩
  · split
    · exact ⟨intact, rfl⟩
    · exact keeps_changeChannel intact fun _ => rfl

/-- Sharing a reference keeps a scheduler intact. -/
theorem keeps_duplicate (intact : scheduler.Intact exact) (id : Nat) :
    Keeps exact (duplicate id) scheduler :=
  keeps_changeChannel intact fun _ => rfl

/-- Posting an event keeps a scheduler intact. -/
theorem keeps_notify (intact : scheduler.Intact exact) (id : Nat) :
    Keeps exact (notify id) scheduler :=
  ((reads_channelAt id).keeps intact).bind fun _ _ intact _ =>
    (keeps_lift intact _).bind fun _ _ intact _ => keeps_changeChannel intact fun _ => rfl

/-- An update on trusted hardware keeps a scheduler intact. -/
theorem keeps_updateRunlist (intact : scheduler.Intact exact) (trusted : exact → scheduler.Trusted)
    (id : Option Nat) (add wait : Bool) :
    Keeps exact (updateRunlist runlistId id add wait) scheduler := by
  refine (yields_updateRunlist intact.sound id add wait).mono ?_ ?_
  · exact fun _ _ updated => ⟨intact.updated trusted updated, updated.toSteady.config⟩
  · exact fun _ _ ⟨_, updated⟩ => ⟨intact.updated trusted updated, updated.toSteady.config⟩

/-- After a channel was to be taken off its runlist, it is in no active set. -/
theorem Updated.off_everywhere {own : Nat} {wait : Bool}
    (updated : Updated exact runlistId (some own) false wait before after)
    (found : before.channels[own]? = some channel) (here : channel.runlist = runlistId) :
    ∃ changed, after.channels[own]? = some changed ∧ changed.core = channel.core ∧
      ∀ list, after.activeOn list own = false := by
  obtain ⟨changed, holds, core⟩ := updated.toSteady.channel_found found
  refine ⟨changed, holds, core, off_of_own updated.sound holds ?_⟩
  rw [runlist_eq_of_core core, here]
  exact updated.off rfl own rfl

/-- Acknowledging a fault keeps a scheduler intact. -/
theorem keeps_acknowledgeFault (intact : scheduler.Intact exact)
    (trusted : exact → scheduler.Trusted) (id : Nat) :
    Keeps exact (acknowledgeFault id) scheduler := by
  unfold Keeps acknowledgeFault channelAt
  rw [yields_bind, yields_bind, yields_get]
  cases found : scheduler.channels[id]? with
  | none =>
    unfold entry
    rw [found]
    exact ⟨intact, rfl⟩
  | some channel =>
    rw [yields_entry found]
    split
    · exact ⟨intact, rfl⟩
    · rename_i faulted
      have isFaulted : channel.state = .faulted := not_not.mp faulted
      rw [yields_bind]
      refine (yields_updateRunlist intact.sound (some id) false false).mono ?_ ?_
      · intro _ after updated
        obtain ⟨changed, holds, core, off⟩ := updated.off_everywhere found rfl
        have live : changed.state ≠ .free := fun free => by
          have unused := (state_eq_free_iff core).mp free
          rw [isFaulted] at unused
          cases unused
        have sound := updated.sound
        have stopped := (intact.updated trusted updated).stopped
        refine ⟨⟨⟨sound.shaped.changeChannel _, ?_, fun exactly => ?_⟩, fun exactly => ?_⟩,
          updated.toSteady.config⟩
        · rw [enrollment_channel holds]
          exact sound.consistent.acknowledge (seat_of_found holds) live (off _)
        · rw [enrollment_channel holds]
          exact (sound.counted exactly).setSeat
        · rw [enrollment_channel holds]
          exact (stopped exactly).setSeat fun impossible => by cases impossible
      · rintro _ after ⟨_, updated⟩
        exact ⟨intact.updated trusted updated, updated.toSteady.config⟩

/-- The memberships once a channel has left its group. -/
theorem enrollment_removed (found : scheduler.channels[id]? = some channel)
    (holds : scheduler.groups[groupId]? = some group) :
    ({ scheduler with
        groups := scheduler.groups.modify groupId fun group =>
          { group with members := group.members.filter (· ≠ id) }
        channels := scheduler.channels.modify id ({ · with group := none }) }).enrollment =
      (scheduler.enrollment.setRoster groupId
        { group.roster with members := group.roster.members.filter (· ≠ id) }).setSeat id
        { channel.seat with group := none } := by
  let left : Scheduler :=
    { scheduler with
      groups := scheduler.groups.modify groupId fun group =>
        { group with members := group.members.filter (· ≠ id) } }
  have still : left.channels[id]? = some channel := found
  have roster : left.enrollment = scheduler.enrollment.setRoster groupId
      { group.roster with members := group.roster.members.filter (· ≠ id) } :=
    enrollment_group holds _
  rw [← roster]
  exact enrollment_channel still _

/-- A channel that leaves its group is in no group, and stays as active as it is. -/
theorem yields_removeMember (intact : scheduler.Intact exact)
    (found : scheduler.channels[id]? = some channel) (grouped : channel.group = some groupId)
    (off : exact → ∀ list, scheduler.activeOn list id = false) :
    (removeMember id groupId).Yields scheduler
      (fun _ after => after.Intact exact ∧ after.config = scheduler.config ∧
        after.channels[id]? = some { channel with group := none } ∧
        after.activeOn = scheduler.activeOn)
      fun _ _ => False := by
  have consistent := intact.sound.consistent
  have seat := seat_of_found found
  obtain ⟨roster, holds, inUse, isMember, together⟩ := consistent.grouped seat grouped
  obtain ⟨group, inTable, rfl⟩ := Option.map_eq_some_iff.mp holds
  have changed := enrollment_removed found inTable
  unfold removeMember groupAt changeGroup changeChannel
  rw [yields_bind, yields_bind, yields_get, yields_entry inTable, yields_bind, yields_modify,
    yields_modify]
  refine ⟨⟨⟨(intact.sound.shaped.changeGroup _).changeChannel _, ?_, fun exactly => ?_⟩,
    fun exactly => ?_⟩, rfl, ?_, rfl⟩
  · rw [changed]
    exact consistent.leave seat grouped holds
  · rw [changed]
    exact ((intact.sound.counted exactly).leave holds (off exactly _)).setSeat
  · rw [changed]
    have before : (scheduler.enrollment.setRoster groupId
        { group.roster with members := group.roster.members.filter (· ≠ id) }).Stopped :=
      intact.stopped exactly
    exact before.setSeat fun _ => off exactly
  · rw [Array.getElem?_modify, if_pos rfl, found]
    rfl

/-- Leaving a group keeps a scheduler intact. -/
theorem keeps_leaveGroup (intact : scheduler.Intact exact) (trusted : exact → scheduler.Trusted)
    (id : Nat) : Keeps exact (leaveGroup id) scheduler := by
  have removes : ∀ {state : Scheduler} {held : Channel} {groupId : Nat}, state.Intact exact →
      state.channels[id]? = some held → held.group = some groupId →
      (exact → ∀ list, state.activeOn list id = false) →
      Keeps exact (removeMember id groupId) state := by
    intro state held groupId intact found grouped off
    refine (yields_removeMember intact found grouped off).mono ?_ fun _ _ => False.elim
    exact fun _ _ ⟨kept, config, _⟩ => ⟨kept, config⟩
  unfold Keeps leaveGroup channelAt
  rw [yields_bind, yields_bind, yields_get]
  cases found : scheduler.channels[id]? with
  | none =>
    unfold entry
    rw [found]
    exact ⟨intact, rfl⟩
  | some channel =>
    rw [yields_entry found]
    cases grouped : channel.group with
    | none => exact ⟨intact, rfl⟩
    | some groupId =>
      dsimp only
      split
      · rw [yields_bind]
        refine (yields_updateRunlist intact.sound (some id) false true).mono ?_ ?_
        · intro _ after updated
          obtain ⟨changed, holds, core, off⟩ := updated.off_everywhere found rfl
          have still : changed.group = some groupId := (group_eq_of_core core).trans grouped
          refine (removes (intact.updated trusted updated) holds still fun _ => off).mono ?_ ?_
          · exact fun _ _ kept => ⟨kept.1, kept.2.trans updated.toSteady.config⟩
          · exact fun _ _ kept => ⟨kept.1, kept.2.trans updated.toSteady.config⟩
        · rintro _ after ⟨_, updated⟩
          exact ⟨intact.updated trusted updated, updated.toSteady.config⟩
      · rename_i idle
        refine removes intact found grouped fun exactly list => ?_
        have seat := seat_of_found found
        by_cases faulted : channel.state = .faulted
        · exact intact.stopped exactly list id channel.seat seat faulted
        · exact intact.sound.consistent.not_active seat idle faulted

/-- Resets that waited for a channel stop nothing. -/
theorem yields_runDeferredResets (sound : scheduler.Sound exact) (id : Nat)
    (group : Option Nat) :
    (runDeferredResets id group).Yields scheduler
      (fun _ after => after.Sound exact ∧ Stops Device.recoveryRegisters ∅ ∅ scheduler after)
      fun _ _ => False := by
  unfold runDeferredResets
  rw [yields_bind, yields_get]
  dsimp only
  split
  · exact ⟨sound, .refl _ scheduler⟩
  · generalize due : (scheduler.deferred.filter fun reset =>
      reset.target = .channel id || some reset.target = group.map .group) = resets
    have fits : ∀ engine ∈ resets.flatMap fun reset =>
        scheduler.config.engines.filter (·.id = reset.engine), Config.EngineFits engine := by
      intro engine mem
      obtain ⟨reset, _, isEngine⟩ := List.mem_flatMap.mp mem
      exact sound.shaped.engineFits (List.mem_of_mem_filter isEngine)
    generalize (resets.flatMap fun reset =>
      scheduler.config.engines.filter (·.id = reset.engine)) = engines at fits ⊢
    have start : scheduler.Sound exact ∧
        Stops Device.recoveryRegisters ∅ ∅ scheduler scheduler := ⟨sound, .refl _ scheduler⟩
    have runs : (engines.forM resetEngine).Yields scheduler
        (fun _ after => after.Sound exact ∧ Stops Device.recoveryRegisters ∅ ∅ scheduler after)
        fun _ _ => False := by
      refine yields_forM_of_kept start fun engine mem state kept => ?_
      refine (yields_resetEngine kept.1 (fits engine mem)).imp ?_
      exact fun _ _ ⟨soundAfter, stops⟩ => ⟨soundAfter, kept.2.quiet_trans stops⟩
    have small : ∀ runlist ∈ engines.map (·.runlist), runlist < 32 := by
      intro runlist mem
      obtain ⟨engine, isEngine, rfl⟩ := List.mem_map.mp mem
      have below := (fits engine isEngine).runlist
      omega
    obtain ⟨runlists, masks, _⟩ := maskOf_eq small
    rw [yields_bind]
    refine runs.imp ?_
    rintro _ reset ⟨soundReset, stopsReset⟩
    rw [yields_bind, masks, yields_lift_ok, yields_bind, yields_modify]
    have soundCleared := soundReset.deferred (reset.deferred.filter (!resets.contains ·))
    have stopsCleared := stops_deferred reset (reset.deferred.filter (!resets.contains ·))
      Device.recoveryRegisters
    refine (yields_enableRunlists soundCleared runlists).imp ?_
    rintro _ after ⟨soundAfter, stopsAfter⟩
    exact ⟨soundAfter, (stopsReset.quiet_trans stopsCleared).quiet_trans stopsAfter⟩

/-- What is left of a release once the channel is in no group. -/
def freeSlot (id : Nat) : Operation Scheduler Unit := do
  onBus (Device.disableChannel id)
  onBus (Device.unbindChannel id)
  changeChannel id Channel.reset
  modify fun scheduler => { scheduler with freeChannels := scheduler.freeChannels.insert id () }

/-- What is left of a release once the waiting resets are done. -/
def leaveSlot (id : Nat) (group : Option Nat) : Operation Scheduler Unit := do
  if let some group := group then
    removeMember id group
  freeSlot id

/-- A release takes the channel off its runlist and runs resets before the channel leaves. -/
theorem releaseChannel_eq (id : Nat) :
    releaseChannel id = (do
      let channel ← channelAt id
      (updateRunlist channel.runlist (some id) false true).disregard
      runDeferredResets id channel.group
      leaveSlot id channel.group) := rfl

/-- The memberships once the slot of a channel is free. -/
theorem enrollment_freed (found : scheduler.channels[id]? = some channel) :
    ({ scheduler with
        channels := scheduler.channels.modify id Channel.reset
        freeChannels := scheduler.freeChannels.insert id () }).enrollment =
      (scheduler.enrollment.setSeat id ⟨.free, 0, none⟩).setFreeChannel id true := by
  let reset : Scheduler :=
    { scheduler with channels := scheduler.channels.modify id Channel.reset }
  have seats : reset.enrollment = scheduler.enrollment.setSeat id ⟨.free, 0, none⟩ :=
    enrollment_channel found Channel.reset
  have pool : ({ reset with freeChannels := reset.freeChannels.insert id () }).enrollment =
      reset.enrollment.setFreeChannel id true := enrollment_freeChannels_insert
  rw [← seats, ← pool]

/-- Freeing the slot of a channel in no group and in no active set keeps a scheduler intact. -/
theorem Intact.freed (intact : scheduler.Intact exact)
    (found : scheduler.channels[id]? = some channel) (alone : channel.group = none)
    (off : ∀ list, scheduler.activeOn list id = false) :
    ({ scheduler with
        channels := scheduler.channels.modify id Channel.reset
        freeChannels := scheduler.freeChannels.insert id () }).Intact exact := by
  have shaped : ({ scheduler with
      channels := scheduler.channels.modify id Channel.reset }).Shaped :=
    intact.sound.shaped.changeChannel Channel.reset
  refine ⟨⟨shaped.same rfl rfl rfl rfl rfl, ?_, fun exactly => ?_⟩, fun exactly => ?_⟩
  · rw [enrollment_freed found]
    exact intact.sound.consistent.release (seat_of_found found) alone (off _)
  · rw [enrollment_freed found]
    exact (intact.sound.counted exactly).setSeat.setFreeChannel
  · rw [enrollment_freed found]
    have seats : (scheduler.enrollment.setSeat id ⟨.free, 0, none⟩).Stopped :=
      (intact.stopped exactly).setSeat fun impossible => by cases impossible
    exact seats

/-- Freeing the slot of a channel in no group and in no active set. -/
theorem keeps_freeSlot (intact : scheduler.Intact exact)
    (found : scheduler.channels[id]? = some channel) (alone : channel.group = none)
    (off : ∀ list, scheduler.activeOn list id = false) :
    Keeps exact (freeSlot id) scheduler := by
  refine keeps_onBus_bind intact fun _ disabled intact => ?_
  refine keeps_onBus_bind intact fun _ unbound intact => ?_
  exact ⟨intact.freed found alone off, rfl⟩

/-- Leaving the group and the slot of a channel in no active set. -/
theorem keeps_leaveSlot (intact : scheduler.Intact exact)
    (found : scheduler.channels[id]? = some channel)
    (off : ∀ list, scheduler.activeOn list id = false) :
    Keeps exact (leaveSlot id channel.group) scheduler := by
  cases grouped : channel.group with
  | none => exact keeps_freeSlot intact found grouped off
  | some groupId =>
    change Keeps exact (removeMember id groupId >>= fun _ => freeSlot id) scheduler
    unfold Keeps
    rw [yields_bind]
    refine (yields_removeMember intact found grouped fun _ => off).mono ?_ fun _ _ => False.elim
    rintro _ after ⟨kept, config, holds, active⟩
    have still : ∀ list, after.activeOn list id = false := by
      rw [active]
      exact off
    refine (keeps_freeSlot kept holds rfl still).mono ?_ ?_
    · exact fun _ _ later => ⟨later.1, later.2.trans config⟩
    · exact fun _ _ later => ⟨later.1, later.2.trans config⟩

/-- Releasing a channel keeps a scheduler intact. -/
theorem keeps_releaseChannel (intact : scheduler.Intact exact)
    (trusted : exact → scheduler.Trusted) (id : Nat) :
    Keeps exact (releaseChannel id) scheduler := by
  rw [releaseChannel_eq]
  unfold Keeps channelAt
  rw [yields_bind, yields_bind, yields_get]
  cases found : scheduler.channels[id]? with
  | none =>
    unfold entry
    rw [found]
    exact ⟨intact, rfl⟩
  | some channel =>
    have leaves : ∀ updated, Updated exact channel.runlist (some id) false true scheduler updated →
        (runDeferredResets id channel.group >>= fun _ => leaveSlot id channel.group).Yields updated
          (fun _ after => after.Intact exact ∧ after.config = scheduler.config)
          fun _ after => after.Intact exact ∧ after.config = scheduler.config := by
      intro updated update
      have kept := intact.updated trusted update
      obtain ⟨changed, holds, core, off⟩ := update.off_everywhere found rfl
      rw [yields_bind]
      refine (yields_runDeferredResets kept.sound id channel.group).mono ?_ fun _ _ => False.elim
      rintro _ reset ⟨soundReset, stops⟩
      have keptReset := kept.stops soundReset stops
      obtain ⟨last, holdsLast, coreLast⟩ := stops.toSteady.channel_found holds
      have same : last.group = channel.group := group_eq_of_core (coreLast.trans core)
      rw [← same]
      refine (keeps_leaveSlot keptReset holdsLast fun list => stops.off (off list)).mono ?_ ?_
      · exact fun _ _ later =>
          ⟨later.1, later.2.trans (stops.toSteady.config.trans update.toSteady.config)⟩
      · exact fun _ _ later =>
          ⟨later.1, later.2.trans (stops.toSteady.config.trans update.toSteady.config)⟩
    rw [yields_entry found, yields_bind, yields_disregard]
    refine (yields_updateRunlist intact.sound (some id) false true).mono ?_ ?_
    · exact fun _ updated update => leaves updated update
    · rintro _ updated ⟨⟨error, rfl⟩, update⟩
      exact leaves updated update

/-- Giving a reference back keeps a scheduler intact. -/
theorem keeps_drop (intact : scheduler.Intact exact) (trusted : exact → scheduler.Trusted)
    (id : Nat) : Keeps exact (drop id) scheduler := by
  unfold Keeps drop channelAt
  rw [yields_bind, yields_bind, yields_get]
  cases found : scheduler.channels[id]? with
  | none =>
    unfold entry
    rw [found]
    exact ⟨intact, rfl⟩
  | some channel =>
    have same : ∀ held : Channel,
        ({ held with references := channel.references - 1 } : Channel).seat = held.seat :=
      fun _ => rfl
    let counted : Scheduler :=
      { scheduler with
        channels := scheduler.channels.modify id
          ({ · with references := channel.references - 1 }) }
    have kept : counted.Intact exact := intact.changeChannel same
    have still : exact → counted.Trusted := fun exactly => (trusted exactly).changeChannel same
    unfold changeChannel
    rw [yields_entry found, yields_bind, yields_modify]
    dsimp only
    split
    · exact ⟨kept, rfl⟩
    · split
      · exact keeps_releaseChannel kept still id
      · exact ⟨kept, rfl⟩

/-- Setting up a group keeps a scheduler intact. -/
theorem keeps_createGroup (intact : scheduler.Intact exact) (runlistId : Nat) :
    Keeps exact (createGroup runlistId) scheduler := by
  refine ((reads_runlist runlistId).keeps intact).bind fun runlist listed intact _ => ?_
  unfold Keeps
  rw [yields_bind, yields_get, yields_bind]
  refine (yields_takeFirst listed.freeGroups).mono ?_ ?_
  · rintro ⟨id, rest⟩ state ⟨free, same, rfl⟩
    dsimp only at free same
    subst same
    let created : Group :=
      { inUse := true, runlist := runlistId, timeslice := state.config.timeslice }
    let taken : Scheduler := { state with freeGroups := state.freeGroups.erase id }
    obtain ⟨_, holds, _⟩ := intact.sound.consistent.freeGroup.mp free
    obtain ⟨group, found, rfl⟩ := Option.map_eq_some_iff.mp holds
    have foundTaken : taken.groups[id]? = some group := found
    have shaped : taken.Shaped := intact.sound.shaped.same rfl rfl rfl rfl rfl
    have changed : ({ taken with groups := taken.groups.modify id fun _ => created }).enrollment =
        (state.enrollment.setFreeGroup id false).setRoster id ⟨true, runlistId, [], 0⟩ := by
      rw [enrollment_group foundTaken, enrollment_freeGroups_erase]
      rfl
    unfold changeGroup
    dsimp only
    rw [yields_bind, yields_modify, yields_bind, yields_get, yields_bind, yields_modify,
      yields_pure]
    refine ⟨⟨⟨shaped.changeGroup _, ?_, fun exactly => ?_⟩, fun exactly => ?_⟩, rfl⟩
    · rw [changed]
      exact intact.sound.consistent.createGroup free
    · rw [changed]
      exact ((intact.sound.counted exactly).createGroup intact.sound.consistent
        free).setFreeGroup
    · rw [changed]
      exact intact.stopped exactly
  · rintro _ _ rfl
    exact ⟨intact, rfl⟩

/-- Putting a bound channel without a group into a group keeps a scheduler intact. -/
theorem Intact.joined (intact : scheduler.Intact exact)
    (found : scheduler.channels[id]? = some channel)
    (inTable : scheduler.groups[groupId]? = some group) (alone : channel.group = none)
    (bound : channel.state = .bound) (inUse : group.inUse = true)
    (together : group.runlist = channel.runlist) :
    ({ scheduler with
        groups := scheduler.groups.modify groupId fun group =>
          { group with members := group.members ++ [id] }
        channels := scheduler.channels.modify id ({ · with group := some groupId }) }).Intact
      exact := by
  let joined : Scheduler :=
    { scheduler with
      groups := scheduler.groups.modify groupId fun group =>
        { group with members := group.members ++ [id] } }
  have still : joined.channels[id]? = some channel := found
  have roster : joined.enrollment = scheduler.enrollment.setRoster groupId
      { group.roster with members := group.roster.members ++ [id] } :=
    enrollment_group inTable _
  have changed : ({ joined with
      channels := joined.channels.modify id ({ · with group := some groupId }) }).enrollment =
        (scheduler.enrollment.setRoster groupId
          { group.roster with members := group.roster.members ++ [id] }).setSeat id
          { channel.seat with group := some groupId } := by
    rw [← roster]
    exact enrollment_channel still _
  have consistent := intact.sound.consistent
  have seat := seat_of_found found
  have off : ∀ list, scheduler.enrollment.active list id = false := fun list =>
    consistent.not_active seat (by simp [Channel.seat, bound]) (by simp [Channel.seat, bound])
  have shaped : joined.Shaped := intact.sound.shaped.changeGroup _
  refine ⟨⟨shaped.changeChannel _, ?_, fun exactly => ?_⟩, fun exactly => ?_⟩
  · rw [changed]
    exact consistent.join seat alone bound (roster_of_found inTable) inUse together
  · rw [changed]
    exact ((intact.sound.counted exactly).join (roster_of_found inTable) (off _)).setSeat
  · rw [changed]
    have before : (scheduler.enrollment.setRoster groupId
        { group.roster with members := group.roster.members ++ [id] }).Stopped :=
      intact.stopped exactly
    exact before.setSeat fun _ => off

/-- Joining a group keeps a scheduler intact. -/
theorem keeps_joinGroup (intact : scheduler.Intact exact) (groupId id : Nat) :
    Keeps exact (joinGroup groupId id) scheduler := by
  unfold Keeps joinGroup channelAt
  rw [yields_bind, yields_group]
  cases inTable : scheduler.groups[groupId]? with
  | none => exact ⟨intact, rfl⟩
  | some group =>
    dsimp only
    split
    · rename_i inUse
      rw [yields_bind, yields_bind, yields_get]
      cases found : scheduler.channels[id]? with
      | none =>
        unfold entry
        rw [found]
        exact ⟨intact, rfl⟩
      | some channel =>
        rw [yields_entry found, yields_bind, yields_runlist]
        cases scheduler.runlists.find? channel.runlist with
        | none => exact ⟨intact, rfl⟩
        | some runlist =>
          dsimp only
          split
          · exact ⟨intact, rfl⟩
          · split
            · exact ⟨intact, rfl⟩
            · rename_i together bound
              have here : group.runlist = channel.runlist := not_not.mp together
              cases grouped : channel.group with
              | some other => exact ⟨intact, rfl⟩
              | none =>
                exact ⟨intact.joined found inTable grouped (not_not.mp bound) inUse here, rfl⟩
    · exact ⟨intact, rfl⟩

/-- Giving up a group without channels keeps a scheduler intact. -/
theorem Intact.dissolved (intact : scheduler.Intact exact)
    (inTable : scheduler.groups[groupId]? = some group) (empty : group.members = []) :
    ({ scheduler with
        groups := scheduler.groups.modify groupId fun group => { active := group.active }
        freeGroups := scheduler.freeGroups.insert groupId () }).Intact exact := by
  let emptied : Scheduler :=
    { scheduler with
      groups := scheduler.groups.modify groupId fun group => { active := group.active } }
  have roster : emptied.enrollment =
      scheduler.enrollment.setRoster groupId ⟨false, 0, [], group.roster.active⟩ :=
    enrollment_group inTable _
  have pool : ({ emptied with
      freeGroups := emptied.freeGroups.insert groupId () }).enrollment =
        emptied.enrollment.setFreeGroup groupId true := enrollment_freeGroups_insert
  have changed := pool.trans (congrArg (·.setFreeGroup groupId true) roster)
  have holds := roster_of_found inTable
  have shaped : emptied.Shaped := intact.sound.shaped.changeGroup _
  refine ⟨⟨shaped.same rfl rfl rfl rfl rfl, ?_, fun exactly => ?_⟩, fun exactly => ?_⟩
  · rw [changed]
    exact intact.sound.consistent.destroyGroup holds empty
  · rw [changed]
    exact ((intact.sound.counted exactly).destroyGroup holds empty).setFreeGroup
  · rw [changed]
    exact intact.stopped exactly

/-- Destroying a group keeps a scheduler intact. -/
theorem keeps_destroyGroup (intact : scheduler.Intact exact) (groupId : Nat) :
    Keeps exact (destroyGroup groupId) scheduler := by
  unfold Keeps destroyGroup
  rw [yields_bind, yields_group]
  cases inTable : scheduler.groups[groupId]? with
  | none => exact ⟨intact, rfl⟩
  | some group =>
    dsimp only
    split
    · split
      · exact ⟨intact, rfl⟩
      · rename_i empty
        exact ⟨intact.dissolved inTable (not_not.mp empty), rfl⟩
    · exact ⟨intact, rfl⟩

/-- Setting the timeslice of a group keeps a scheduler intact. -/
theorem keeps_setTimeslice (intact : scheduler.Intact exact) (groupId : Nat)
    (timeslice : Timeslice) : Keeps exact (setTimeslice groupId timeslice) scheduler := by
  refine ((reads_group groupId).keeps intact).bind fun _ state intact _ => ?_
  refine ⟨intact.same (intact.sound.shaped.changeGroup _) ?_, rfl⟩
  unfold enrollment
  congr 1
  funext other
  rw [Array.getElem?_modify]
  split
  · cases state.groups[other]? <;> rfl
  · rfl

/-- What a waiter finds is read. -/
theorem reads_waitOutcome (id seen : Nat) : Reads (waitOutcome id seen) := by
  refine (reads_channelAt id).bind fun channel => ?_
  dsimp only
  intro scheduler
  split
  · rfl
  · split
    · rfl
    · rfl

/-- A wait in which no event is posted only reads. -/
theorem reads_waitEvent (id timeout : Nat) : Reads (waitEvent id timeout) := by
  have waits : Reads (channelAt id >>= fun channel => waitOutcome id channel.events) :=
    (reads_channelAt id).bind fun channel => reads_waitOutcome id channel.events
  refine reads_get.bind fun read => ?_
  dsimp only
  split
  · exact fun _ => rfl
  · exact waits

/-- Waiting until a waker has run keeps a scheduler intact. -/
theorem keeps_waitWoken (intact : scheduler.Intact exact) (id : Nat) (waker : Waker) :
    Keeps exact (waitWoken id waker) scheduler := by
  refine ((reads_channelAt id).keeps intact).bind fun channel _ intact _ => ?_
  cases waker with
  | notification =>
    exact (keeps_notify intact id).bind fun _ _ intact _ => (reads_waitOutcome id _).keeps intact
  | interrupt =>
    exact (keeps_handleInterrupts intact Interrupt.channel).bind fun _ _ intact _ =>
      (reads_waitOutcome id _).keeps intact
  | recovery =>
    exact ((ceases_recoverChannel intact.sound id .forced).disregard.keeps intact).bind
      fun _ _ intact _ => (reads_waitOutcome id _).keeps intact

end Scheduler

end GpuSched
