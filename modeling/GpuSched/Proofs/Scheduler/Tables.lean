import GpuSched.Proofs.Backoff
import GpuSched.Proofs.Bitmap
import GpuSched.Proofs.Contract
import GpuSched.Proofs.Scheduler.Enrollment

/-!
# Tables of a scheduler

The enrollment of a scheduler is read off its tables. The tables are shaped when they have the sizes
of the configuration, and a scheduler is sound when its tables are shaped and its enrollment is
consistent. A change of one entry of a table is a change of the enrollment at that entry.
-/
namespace GpuSched

open Operation

namespace Table

variable {α : Type}

/-- An added number is in the table. -/
theorem contains_insert (table : Table α) (key other : Nat) (value : α) :
    (table.insert key value).contains other =
      if other = key then true else table.contains other := by
  unfold contains
  rw [find?_insert]
  split <;> rfl

/-- A number that is taken away is not in the table. -/
theorem contains_erase (table : Table α) (key other : Nat) :
    (table.erase key).contains other = if other = key then false else table.contains other := by
  unfold contains
  rw [find?_erase]
  split <;> rfl

end Table

/-- The lengths of the waits on the hardware. -/
def PollConfig.timeouts (poll : PollConfig) : List Nat :=
  [poll.runlistTimeout, poll.preemptTimeout, poll.idleTimeout]

/-- The timeouts of updates, of preempts and of waits for idle engines are all of them. -/
theorem PollConfig.mem_timeouts (poll : PollConfig) : poll.runlistTimeout ∈ poll.timeouts ∧
    poll.preemptTimeout ∈ poll.timeouts ∧ poll.idleTimeout ∈ poll.timeouts := by
  simp [timeouts]

namespace Config

variable {config : Config} {engine : Engine}

/-- A clock can tell the times of the waits on the hardware, if these go by a clock. -/
def Timely (config : Config) (clock : Clock) : Prop :=
  config.timing = .wallclock →
    ∀ timeout ∈ config.poll.timeouts, config.poll.backoff.Timely clock timeout

instance (config : Config) (clock : Clock) : Decidable (config.Timely clock) :=
  inferInstanceAs (Decidable (_ → _))

/-- A clock that does not end can tell every time. -/
theorem timely_endless (config : Config) : config.Timely .endless :=
  fun _ timeout _ => config.poll.backoff.timely_endless timeout

/-- An engine whose numbers have a place in the registers. -/
structure EngineFits (engine : Engine) : Prop where
  id : engine.id < 32
  runlist : engine.runlist < 16
  pbdma : engine.pbdma < 8
  faultId : engine.faultId < 32
  reset : engine.reset < 32

/-- An engine without a fault fits. -/
theorem engineFits_of_fault (accepted : engineFault? engine = none) : EngineFits engine := by
  unfold engineFault? at accepted
  have units : unitCount = 32 := rfl
  have runlists : Register.runlistCount = 16 := rfl
  have pbdmas : Register.pbdmaCount = 8 := rfl
  grind [EngineFits]

/-- The engines of a list without a fault fit. -/
theorem engineFits_of_mem {seen : List Nat} {engines : List Engine}
    (accepted : enginesFault? seen engines = none) (mem : engine ∈ engines) :
    EngineFits engine := by
  induction engines generalizing seen with
  | nil => cases mem
  | cons first rest ih =>
    simp only [enginesFault?] at accepted
    split at accepted
    · cases accepted
    · split at accepted
      · cases accepted
      · rename_i fits
        rcases List.mem_cons.mp mem with rfl | later
        · exact engineFits_of_fault fits
        · exact ih accepted later

/-- Where engines can be told apart by their faults, an engine is the first one with its fault. -/
theorem find_fault (distinct : (config.engines.map (·.faultId)).Nodup)
    (mem : engine ∈ config.engines) :
    config.engines.find? (·.faultId = engine.faultId) = some engine := by
  cases found : config.engines.find? (·.faultId = engine.faultId) with
  | none => exact absurd (decide_eq_true rfl) (List.find?_eq_none.mp found engine mem)
  | some first =>
    have same : first.faultId = engine.faultId := by simpa using List.find?_some found
    rw [List.inj_on_of_nodup_map distinct (List.mem_of_find?_eq_some found) mem same]

/-- What the numbers of an accepted configuration are. -/
theorem fits_of_fault (accepted : config.fault? = none) :
    config.channelCount ≤ 4096 ∧ config.groupCount ≤ 4096 ∧
      ∀ engine ∈ config.engines, EngineFits engine := by
  unfold fault? at accepted
  have ids : idCount = 4096 := rfl
  split at accepted
  · cases accepted
  · split at accepted
    · cases accepted
    · split at accepted
      · cases accepted
      · refine ⟨?_, ?_, fun engine mem => engineFits_of_mem accepted mem⟩
        · simp_all
        · simp_all

end Config

/-- The seat of a channel. -/
def Channel.seat (channel : Channel) : Seat := ⟨channel.state, channel.runlist, channel.group⟩

/-- The roster of a group. -/
def Group.roster (group : Group) : Roster :=
  ⟨group.inUse, group.runlist, group.members, group.active⟩

namespace Scheduler

variable {exact : Prop} {scheduler : Scheduler} {id runlistId : Nat} {channel : Channel}
  {group : Group} {runlist next : Runlist}

/-- Whether a channel is in the active set of a runlist. -/
def activeOn (scheduler : Scheduler) (runlistId id : Nat) : Bool :=
  match scheduler.runlists.find? runlistId with
  | some runlist => runlist.activeChannels.member id
  | none => false

/-- Whether a group is among the active groups of a runlist. -/
def groupActiveOn (scheduler : Scheduler) (runlistId id : Nat) : Bool :=
  match scheduler.runlists.find? runlistId with
  | some runlist => runlist.activeGroups.member id
  | none => false

/-- The memberships that the tables record. -/
def enrollment (scheduler : Scheduler) : Enrollment where
  channel id := scheduler.channels[id]?.map Channel.seat
  group id := scheduler.groups[id]?.map Group.roster
  listed := scheduler.runlists.contains
  active := scheduler.activeOn
  activeGroup := scheduler.groupActiveOn
  freeChannel := scheduler.freeChannels.contains
  freeGroup := scheduler.freeGroups.contains

end Scheduler

/-- A runlist for a number of channels and groups. -/
structure Runlist.Shaped (channels groups : Nat) (runlist : Runlist) : Prop where
  channelSize : runlist.activeChannels.size = channels
  groupSize : runlist.activeGroups.size = groups
  channelsBounded : runlist.activeChannels.Bounded
  groupsBounded : runlist.activeGroups.Bounded
  /-- Each buffer has room for an entry of every channel and group. -/
  currentRoom : 2 * (channels + groups) ≤ runlist.current.wordCount
  spareRoom : 2 * (channels + groups) ≤ runlist.spare.wordCount

/-- A runlist whose spare buffer has been written. -/
theorem Runlist.Shaped.withSpare {channels groups : Nat} {runlist : Runlist} {spare : DmaBuffer}
    (fits : runlist.Shaped channels groups) (size : spare.size = runlist.spare.size) :
    ({ runlist with spare }).Shaped channels groups := by
  have count : spare.wordCount = runlist.spare.wordCount := congrArg (· / 4) size
  exact { fits with spareRoom := count ▸ fits.spareRoom }

/-- A runlist whose buffers have changed places. -/
theorem Runlist.Shaped.swapped {channels groups count : Nat} {runlist : Runlist}
    (fits : runlist.Shaped channels groups) :
    ({ runlist with current := runlist.spare, spare := runlist.current, count }).Shaped
      channels groups :=
  ⟨fits.channelSize, fits.groupSize, fits.channelsBounded, fits.groupsBounded, fits.spareRoom,
    fits.currentRoom⟩

namespace Scheduler

variable {exact : Prop} {scheduler : Scheduler} {id runlistId : Nat} {channel : Channel}
  {group : Group} {runlist next : Runlist}

/-- The clock of a scheduler can tell the times of its waits on the hardware. -/
def Timely (scheduler : Scheduler) : Prop := scheduler.config.Timely scheduler.clock

/-- Tables of the sizes that an accepted configuration asks for, and waits that the clock can
tell. -/
structure Shaped (scheduler : Scheduler) : Prop where
  accepted : scheduler.config.fault? = none
  timely : scheduler.Timely
  channels : scheduler.channels.size = scheduler.config.channelCount
  groups : scheduler.groups.size = scheduler.config.groupCount
  inRange : ∀ {id runlist}, scheduler.runlists.find? id = some runlist → id < 16
  runlist : ∀ {id runlist}, scheduler.runlists.find? id = some runlist →
    runlist.Shaped scheduler.config.channelCount scheduler.config.groupCount
  engine : ∀ engine ∈ scheduler.config.engines, scheduler.runlists.contains engine.runlist = true

/-- Shaped tables with consistent memberships. Where the hardware is trusted, the groups are counted
as well. -/
structure Sound (exact : Prop) (scheduler : Scheduler) : Prop where
  shaped : scheduler.Shaped
  consistent : scheduler.enrollment.Consistent
  counted : exact → scheduler.enrollment.Counted

/-- The seat of a channel in the table. -/
theorem seat_of_found (found : scheduler.channels[id]? = some channel) :
    scheduler.enrollment.channel id = some channel.seat := by
  simp [enrollment, found]

/-- The roster of a group in the table. -/
theorem roster_of_found (found : scheduler.groups[id]? = some group) :
    scheduler.enrollment.group id = some group.roster := by
  simp [enrollment, found]

/-- Another entry for a channel. -/
theorem enrollment_channel (found : scheduler.channels[id]? = some channel)
    (change : Channel → Channel) :
    ({ scheduler with channels := scheduler.channels.modify id change }).enrollment =
      scheduler.enrollment.setSeat id (change channel).seat := by
  unfold enrollment Enrollment.setSeat
  congr 1
  funext other
  rw [Array.getElem?_modify]
  by_cases own : id = other
  · subst own
    simp [found]
  · simp [own, Ne.symm own]

/-- Another entry for a group. -/
theorem enrollment_group (found : scheduler.groups[id]? = some group) (change : Group → Group) :
    ({ scheduler with groups := scheduler.groups.modify id change }).enrollment =
      scheduler.enrollment.setRoster id (change group).roster := by
  unfold enrollment Enrollment.setRoster
  congr 1
  funext other
  rw [Array.getElem?_modify]
  by_cases own : id = other
  · subst own
    simp [found]
  · simp [own, Ne.symm own]

/-- The active sets after a runlist has been replaced. -/
theorem activeOn_insert (list other : Nat) :
    ({ scheduler with runlists := scheduler.runlists.insert runlistId next }).activeOn list other =
      if list = runlistId then next.activeChannels.member other
      else scheduler.activeOn list other := by
  unfold activeOn
  simp only [Table.find?_insert]
  by_cases own : list = runlistId <;> simp [own]

/-- The active groups after a runlist has been replaced. -/
theorem groupActiveOn_insert (list other : Nat) :
    ({ scheduler with runlists := scheduler.runlists.insert runlistId next }).groupActiveOn
      list other =
      if list = runlistId then next.activeGroups.member other
      else scheduler.groupActiveOn list other := by
  unfold groupActiveOn
  simp only [Table.find?_insert]
  by_cases own : list = runlistId <;> simp [own]

/-- A runlist that is there is listed. -/
theorem contains_of_find? (found : scheduler.runlists.find? runlistId = some runlist) :
    scheduler.runlists.contains runlistId = true := by
  unfold Table.contains
  rw [found]
  rfl

/-- Replacing a runlist that is there lists no other. -/
theorem contains_insert (found : scheduler.runlists.find? runlistId = some runlist) :
    (scheduler.runlists.insert runlistId next).contains = scheduler.runlists.contains := by
  funext list
  rw [Table.contains_insert]
  split
  · rename_i own
    rw [own, contains_of_find? found]
  · rfl

/-- A runlist with the same active sets leaves the memberships. -/
theorem enrollment_runlist (found : scheduler.runlists.find? runlistId = some runlist)
    (channels : next.activeChannels = runlist.activeChannels)
    (groups : next.activeGroups = runlist.activeGroups) :
    ({ scheduler with runlists := scheduler.runlists.insert runlistId next }).enrollment =
      scheduler.enrollment := by
  unfold enrollment
  congr 1
  · exact contains_insert found
  · funext list other
    rw [activeOn_insert, channels]
    by_cases own : list = runlistId <;> simp [own, activeOn, found]
  · funext list other
    rw [groupActiveOn_insert, groups]
    by_cases own : list = runlistId <;> simp [own, groupActiveOn, found]

/-- A channel added to an active set or taken away. -/
theorem enrollment_activeChannels (found : scheduler.runlists.find? runlistId = some runlist)
    (below : id < runlist.activeChannels.size) (add : Bool) :
    ({ scheduler with
        runlists := scheduler.runlists.insert runlistId
          { runlist with activeChannels := runlist.activeChannels.changing id add } }).enrollment =
      scheduler.enrollment.setActive runlistId id add := by
  unfold enrollment Enrollment.setActive
  congr 1
  · exact contains_insert found
  · funext list other
    rw [activeOn_insert, Bitmap.member_changing below]
    by_cases own : list = runlistId
    · subst own
      by_cases same : other = id <;> simp [same, activeOn, found]
    · simp [own]
  · funext list other
    rw [groupActiveOn_insert]
    by_cases own : list = runlistId <;> simp [own, groupActiveOn, found]

/-- A group added to the active groups or taken away. -/
theorem enrollment_activeGroups (found : scheduler.runlists.find? runlistId = some runlist)
    (below : id < runlist.activeGroups.size) (add : Bool) :
    ({ scheduler with
        runlists := scheduler.runlists.insert runlistId
          { runlist with activeGroups := runlist.activeGroups.changing id add } }).enrollment =
      scheduler.enrollment.setActiveGroup runlistId id add := by
  unfold enrollment Enrollment.setActiveGroup
  congr 1
  · exact contains_insert found
  · funext list other
    rw [activeOn_insert]
    by_cases own : list = runlistId <;> simp [own, activeOn, found]
  · funext list other
    rw [groupActiveOn_insert, Bitmap.member_changing below]
    by_cases own : list = runlistId
    · subst own
      by_cases same : other = id <;> simp [same, groupActiveOn, found]
    · simp [own]

/-- A number put into the pool of channels. -/
theorem enrollment_freeChannels_insert :
    ({ scheduler with freeChannels := scheduler.freeChannels.insert id () }).enrollment =
      scheduler.enrollment.setFreeChannel id true := by
  unfold enrollment Enrollment.setFreeChannel
  congr 1
  funext other
  exact Table.contains_insert ..

/-- A number taken out of the pool of channels. -/
theorem enrollment_freeChannels_erase :
    ({ scheduler with freeChannels := scheduler.freeChannels.erase id }).enrollment =
      scheduler.enrollment.setFreeChannel id false := by
  unfold enrollment Enrollment.setFreeChannel
  congr 1
  funext other
  exact Table.contains_erase ..

/-- A number put into the pool of groups. -/
theorem enrollment_freeGroups_insert :
    ({ scheduler with freeGroups := scheduler.freeGroups.insert id () }).enrollment =
      scheduler.enrollment.setFreeGroup id true := by
  unfold enrollment Enrollment.setFreeGroup
  congr 1
  funext other
  exact Table.contains_insert ..

/-- A number taken out of the pool of groups. -/
theorem enrollment_freeGroups_erase :
    ({ scheduler with freeGroups := scheduler.freeGroups.erase id }).enrollment =
      scheduler.enrollment.setFreeGroup id false := by
  unfold enrollment Enrollment.setFreeGroup
  congr 1
  funext other
  exact Table.contains_erase ..

namespace Shaped

/-- Tables of the same sizes with the same runlists. -/
theorem same {before after : Scheduler} (shaped : before.Shaped)
    (config : after.config = before.config) (clock : after.clock = before.clock)
    (channels : after.channels.size = before.channels.size)
    (groups : after.groups.size = before.groups.size)
    (runlists : after.runlists = before.runlists) : after.Shaped := by
  refine ⟨?_, ?_, ?_, ?_, fun found => ?_, fun found => ?_, fun engine mem => ?_⟩
  · rw [config]
    exact shaped.accepted
  · unfold Timely
    rw [config, clock]
    exact shaped.timely
  · rw [config, channels]
    exact shaped.channels
  · rw [config, groups]
    exact shaped.groups
  · rw [runlists] at found
    exact shaped.inRange found
  · rw [runlists] at found
    rw [config]
    exact shaped.runlist found
  · rw [config] at mem
    rw [runlists]
    exact shaped.engine engine mem

/-- Another entry for a channel. -/
theorem changeChannel (shaped : scheduler.Shaped) (change : Channel → Channel) :
    ({ scheduler with channels := scheduler.channels.modify id change }).Shaped :=
  ⟨shaped.accepted, shaped.timely, Array.size_modify.trans shaped.channels, shaped.groups,
    shaped.inRange, shaped.runlist, shaped.engine⟩

/-- Another entry for a group. -/
theorem changeGroup (shaped : scheduler.Shaped) (change : Group → Group) :
    ({ scheduler with groups := scheduler.groups.modify id change }).Shaped :=
  ⟨shaped.accepted, shaped.timely, shaped.channels, Array.size_modify.trans shaped.groups,
    shaped.inRange, shaped.runlist, shaped.engine⟩

/-- Another runlist in the place of one. -/
theorem putRunlist (shaped : scheduler.Shaped)
    (found : scheduler.runlists.find? runlistId = some runlist)
    (fits : next.Shaped scheduler.config.channelCount scheduler.config.groupCount) :
    ({ scheduler with runlists := scheduler.runlists.insert runlistId next }).Shaped := by
  refine ⟨shaped.accepted, shaped.timely, shaped.channels, shaped.groups,
    fun {list held} holds => ?_, fun {list held} holds => ?_, fun engine mem => ?_⟩
  · rw [Table.find?_insert] at holds
    split at holds
    · rename_i own
      rw [own]
      exact shaped.inRange found
    · exact shaped.inRange holds
  · rw [Table.find?_insert] at holds
    split at holds
    · rw [Option.some.injEq] at holds
      rw [← holds]
      exact fits
    · exact shaped.runlist holds
  · change (scheduler.runlists.insert runlistId next).contains engine.runlist = true
    rw [contains_insert found]
    exact shaped.engine engine mem

/-- A channel that is there has a bit in each active set. -/
theorem channel_lt (shaped : scheduler.Shaped) (found : scheduler.channels[id]? = some channel) :
    id < scheduler.config.channelCount := by
  rw [← shaped.channels]
  exact (Array.getElem?_eq_some_iff.mp found).1

/-- A group that is there has a bit in each set of active groups. -/
theorem group_lt (shaped : scheduler.Shaped) (found : scheduler.groups[id]? = some group) :
    id < scheduler.config.groupCount := by
  rw [← shaped.groups]
  exact (Array.getElem?_eq_some_iff.mp found).1

/-- The engines of a scheduler fit. -/
theorem engineFits (shaped : scheduler.Shaped) {engine : Engine}
    (mem : engine ∈ scheduler.config.engines) : Config.EngineFits engine :=
  (Config.fits_of_fault shaped.accepted).2.2 engine mem

end Shaped

/-- What changes neither the shapes nor the memberships keeps a scheduler sound. -/
theorem Sound.same {before after : Scheduler} (sound : before.Sound exact) (shaped : after.Shaped)
    (enrollment : after.enrollment = before.enrollment) : after.Sound exact := by
  refine ⟨shaped, ?_, fun holds => ?_⟩
  · rw [enrollment]
    exact sound.consistent
  · rw [enrollment]
    exact sound.counted holds

/-- Only the tables of a scheduler have to be sound. -/
theorem Sound.elsewhere {scheduler : Scheduler} (sound : scheduler.Sound exact) (machine : Machine)
    (deferred : List DeferredReset) (attached : List Target) :
    ({ scheduler with machine, deferred, attached } : Scheduler).Sound exact :=
  sound.same (sound.shaped.same rfl rfl rfl rfl rfl) rfl

end Scheduler

end GpuSched
