import GpuSched.Proofs.Scheduler.Idling

/-!
# What an update changes

An update moves a channel into an active set or out of it, fills the spare buffer, hands it over,
waits, and swaps the buffers. Each of these has a relation of its own: `Shifts` for active sets and
`Refills` for buffers; the rest of an update idles or services faults. So a relation that holds of
these steps holds of every update. Only the filling and the swap touch a buffer: a list is where it
was written when its update ends, whatever has become of the channels on it.
-/
namespace GpuSched

open Operation

/-- Whether a group is in use, and the timeslice that it has. -/
def Group.share (group : Group) : Bool × Timeslice := (group.inUse, group.timeslice)

namespace Scheduler

variable {scheduler before middle after : Scheduler} {runlistId list id : Nat} {runlist : Runlist}
  {α β : Type}

/-- The buffers of every runlist stay, and a runlist is handed nothing. -/
structure Rests (runlistId : Nat) (before after : Scheduler) : Prop where
  config : after.config = before.config
  clock : after.clock = before.clock
  buffers : SameBuffers before after
  hardware : Bus.Rests runlistId before.machine.bus after.machine.bus

instance (runlistId : Nat) : IsPreorder Scheduler (Rests runlistId) where
  refl _ := ⟨rfl, rfl, fun _ => rfl, Std.Refl.refl _⟩
  trans _ _ _ one two :=
    ⟨two.config.trans one.config, two.clock.trans one.clock, one.buffers.trans two.buffers,
      IsTrans.trans _ _ _ one.hardware two.hardware⟩

/-- Where the buffers stay, the lengths of waits and the clock stay as well. -/
theorem Rests.sameTimes (rests : Rests runlistId before after) : SameTimes before after :=
  ⟨rests.config, rests.clock⟩

/-- Beside updates no buffer changes, and nothing is handed over. -/
theorem Stays.rests (stays : Stays before after) : Rests runlistId before after :=
  ⟨stays.config, stays.clock, fun list => by rw [stays.runlists],
    stays.hardware.rests runlistId⟩

/-- What drives resets and disable bits changes no buffer. -/
theorem rests_of_drives {operation : Operation Scheduler α} (drives : Respects Drives operation) :
    Respects (Rests runlistId) operation :=
  drives.mono fun _ _ drives => drives.toStays.rests

/-- The hardware is driven without a submission. -/
theorem rests_onBus {operation : Operation Bus α}
    (rests : Respects (Bus.Rests runlistId) operation) :
    Respects (Rests runlistId) (onBus operation) :=
  respects_focus rests fun _ _ hardware => ⟨rfl, rfl, fun _ => rfl, hardware⟩

/-- A runlist that is answered is there. -/
theorem of_runlist (run : Scheduler.runlist id scheduler = (.ok runlist, after)) :
    scheduler.runlists.find? id = some runlist ∧ scheduler = after := by
  have looks : (Scheduler.runlist id).Yields scheduler
      (fun runlist after => scheduler.runlists.find? id = some runlist ∧ scheduler = after)
      fun _ _ => True := by
    rw [yields_runlist]
    cases scheduler.runlists.find? id with
    | none => trivial
    | some runlist => exact ⟨rfl, rfl⟩
  exact looks.of_ok run

/-- A channel that is answered is there. -/
theorem of_channel {channel : Channel}
    (run : Scheduler.channel id scheduler = (.ok channel, after)) :
    scheduler.channels[id]? = some channel ∧ scheduler = after := by
  have looks : (Scheduler.channel id).Yields scheduler
      (fun channel after => scheduler.channels[id]? = some channel ∧ scheduler = after)
      fun _ _ => True := by
    rw [yields_channel]
    cases scheduler.channels[id]? with
    | none => trivial
    | some channel => exact ⟨rfl, rfl⟩
  exact looks.of_ok run

/-- What is done with a runlist that is looked up is done with one that is there. -/
theorem respects_runlist_bind {related : Scheduler → Scheduler → Prop}
    [IsPreorder Scheduler related] {next : Runlist → Operation Scheduler β}
    (each : ∀ scheduler runlist, scheduler.runlists.find? id = some runlist →
      related scheduler (next runlist scheduler).2) :
    Respects related (Scheduler.runlist id >>= next) := by
  intro scheduler
  refine related_bind ((reads_runlist id).respects _) fun runlist middle run => ?_
  obtain ⟨found, rfl⟩ := of_runlist run
  exact each scheduler runlist found

/-- The same groups are in use, with the same timeslices. -/
def SameShares (before after : Scheduler) : Prop :=
  ∀ id : Nat, after.groups[id]?.map Group.share = before.groups[id]?.map Group.share

instance : IsPreorder Scheduler SameShares where
  refl _ _ := rfl
  trans _ _ _ one two id := (two id).trans (one id)

/-- Where the groups stay, so do their shares. -/
theorem sameShares_of_groups (same : after.groups = before.groups) : SameShares before after :=
  fun _ => by rw [same]

/-- A group is changed, but not in its share. -/
theorem sameShares_changeGroup (id : Nat) (change : Group → Group)
    (stays : ∀ group, (change group).share = group.share) :
    Respects SameShares (changeGroup id change) := by
  intro scheduler other
  change (scheduler.groups.modify id change)[other]?.map Group.share = _
  rw [Array.getElem?_modify]
  split
  · rw [Option.map_map]
    exact congrArg (Option.map · _) (funext stays)
  · rfl

/-- Active sets and their counters change, and nothing else of a runlist or a group. -/
structure Shifts (before after : Scheduler) : Prop where
  config : after.config = before.config
  clock : after.clock = before.clock
  machine : after.machine = before.machine
  deferred : after.deferred = before.deferred
  attached : after.attached = before.attached
  buffers : SameBuffers before after
  berths : ∀ id : Nat,
    after.channels[id]?.map Channel.berth = before.channels[id]?.map Channel.berth
  shares : SameShares before after

instance : IsPreorder Scheduler Shifts where
  refl _ := ⟨rfl, rfl, rfl, rfl, rfl, fun _ => rfl, fun _ => rfl, Std.Refl.refl _⟩
  trans _ _ _ one two :=
    ⟨two.config.trans one.config, two.clock.trans one.clock, two.machine.trans one.machine,
      two.deferred.trans one.deferred, two.attached.trans one.attached,
      one.buffers.trans two.buffers, fun id => (two.berths id).trans (one.berths id),
      IsTrans.trans _ _ _ one.shares two.shares⟩

/-- Active sets change without a submission. -/
theorem Shifts.rests (shifts : Shifts before after) : Rests runlistId before after := by
  refine ⟨shifts.config, shifts.clock, shifts.buffers, ?_⟩
  rw [shifts.machine]
  exact Std.Refl.refl _

/-- Another runlist with the same buffers is put in the place of one that is there. -/
theorem shifts_putRunlist {next : Runlist} (found : scheduler.runlists.find? id = some runlist)
    (same : next.buffers = runlist.buffers) : Shifts scheduler (putRunlist id next scheduler).2 :=
  ⟨rfl, rfl, rfl, rfl, rfl, sameBuffers_insert found same, fun _ => rfl,
    sameShares_of_groups rfl⟩

/-- A group is counted. -/
theorem shifts_countActive (list groupId : Nat) (add : Bool) :
    Respects Shifts (countActive list groupId add) := by
  have counts : ∀ active : UInt32, Respects Shifts (changeGroup groupId ({ · with active })) :=
    fun active scheduler => ⟨rfl, rfl, rfl, rfl, rfl, fun _ => rfl, fun _ => rfl,
      sameShares_changeGroup groupId ({ · with active }) (fun _ => rfl) scheduler⟩
  refine (reads_get.bind fun read => reads_entry read.groups groupId).respects.bind fun group => ?_
  refine (counts _).bind fun _ => ?_
  by_cases edge : group.active = if add then 0 else 1
  · rw [if_pos edge]
    cases add with
    | true =>
      exact respects_runlist_bind fun scheduler runlist found =>
        related_lift_bind fun _ _ => shifts_putRunlist found rfl
    | false =>
      exact respects_runlist_bind fun scheduler runlist found =>
        related_lift_bind fun _ _ => shifts_putRunlist found rfl
  · rw [if_neg edge]
    exact respects_pure _

/-- A channel in use is changed, or its bit is cleared: it stays where it is. -/
theorem shifts_toggledChannel {add : Bool} {channel : Channel}
    (found : scheduler.channels[id]? = some channel) (live : add = true → channel.state ≠ .free) :
    Shifts scheduler (changeChannel id (toggledChannel add) scheduler).2 := by
  have stays : (toggledChannel add channel).berth = channel.berth := by
    unfold Channel.berth toggledChannel toggledState
    cases add with
    | true => simp [live rfl]
    | false => by_cases active : channel.state = .active <;> simp [active]
  refine ⟨rfl, rfl, rfl, rfl, rfl, fun _ => rfl, fun other => ?_, sameShares_of_groups rfl⟩
  rw [getElem?_changed]
  split
  · subst ‹id = other›
    rw [found]
    exact congrArg some stays
  · rfl

/-- The bit of a channel is changed. -/
theorem shifts_toggle (list : Nat) {add : Bool} {channel : Channel}
    (found : scheduler.channels[id]? = some channel) (live : add = true → channel.state ≠ .free) :
    Shifts scheduler (toggle list id add channel scheduler).2 := by
  have moves : ∀ (before : Bool) (runlist : Runlist) (activeChannels : Bitmap)
      (counts : Operation Scheduler Bool), Respects Shifts counts →
      scheduler.runlists.find? list = some runlist →
      Shifts scheduler ((do
        if before = add then
          return false
        putRunlist list { runlist with activeChannels }
        changeChannel id (toggledChannel add)
        counts : Operation Scheduler Bool) scheduler).2 := by
    intro before runlist activeChannels counts shifts held
    split
    · exact Std.Refl.refl _
    · refine related_bind (shifts_putRunlist held rfl) fun _ middle run => ?_
      cases run
      exact related_bind (shifts_toggledChannel found live) fun _ middle _ => shifts middle
  unfold toggle
  simp only [toggledChannel_eq]
  refine related_bind ((reads_runlist list).respects _) fun runlist middle run => ?_
  obtain ⟨held, rfl⟩ := of_runlist run
  cases add
  all_goals
    refine related_lift_bind fun tested _ => moves tested.1 runlist tested.2 _ ?_ held
    cases channel.group with
    | none => exact respects_pure _
    | some group => exact (shifts_countActive list group _).bind fun _ => respects_pure _

/-- A channel is put into an active set or taken out of it. -/
theorem shifts_setActive (list id : Nat) (add : Bool) :
    Respects Shifts (setActive list id add) := by
  intro scheduler
  rw [setActive_eq]
  refine related_bind ((reads_channel id).respects _) fun channel middle run => ?_
  obtain ⟨found, rfl⟩ := of_channel run
  have toggles : (add = true → channel.state ≠ .free) →
      Shifts scheduler (toggle list id add channel scheduler).2 := shifts_toggle list found
  dsimp only
  split
  · exact respects_refuse_bind _ _ scheduler
  · split
    · cases state : channel.state with
      | free => exact respects_refuse_bind _ _ scheduler
      | faulted => exact respects_refuse_bind _ _ scheduler
      | bound => exact toggles fun _ => by simp [state]
      | active => exact toggles fun _ => by simp [state]
    · exact toggles fun adds => absurd adds ‹_›

/-- The channels of some targets are taken out of the active set of a runlist. -/
theorem shifts_dropTargets (list : Nat) (targets : List Target) :
    Respects Shifts (dropTargets list targets) := by
  refine respects_forM (fun target => respects_get.bind fun read => ?_) targets
  refine respects_forM (fun id => (reads_channelAt id).respects.bind fun channel => ?_) _
  split
  · exact (shifts_setActive list id false).disregard
  · exact respects_pure _

/-- A channel is put into an active set or taken out of it. -/
theorem rests_setActive (list id : Nat) (add : Bool) :
    Respects (Rests runlistId) (setActive list id add) :=
  (shifts_setActive list id add).mono fun _ _ => Shifts.rests

/-- The channels of some targets are taken out of the active set of a runlist. -/
theorem rests_dropTargets (list : Nat) (targets : List Target) :
    Respects (Rests runlistId) (dropTargets list targets) :=
  (shifts_dropTargets list targets).mono fun _ _ => Shifts.rests

/-- A list is waited for. -/
theorem rests_waitRunlist (list : Nat) : Respects (Rests runlistId) (waitRunlist list) :=
  rests_of_drives (drives_of_idles (idles_waitRunlist list))

/-- The engines of a runlist are recovered. -/
theorem rests_recoverRunlistEngines (list : Nat) :
    Respects (Rests runlistId) (recoverRunlistEngines list) :=
  rests_of_drives (drives_recoverRunlistEngines list)

/-- Resets that waited for a channel are run. -/
theorem rests_runDeferredResets (id : Nat) (group : Option Nat) :
    Respects (Rests runlistId) (runDeferredResets id group) :=
  rests_of_drives (drives_runDeferredResets id group)

/-- A channel leaves its group and its slot. -/
theorem rests_leaveSlot (id : Nat) (group : Option Nat) :
    Respects (Rests runlistId) (leaveSlot id group) :=
  (alters_leaveSlot id group).mono fun _ _ alters => alters.toStays.rests

/-- The buffers of one runlist are filled and change places. -/
structure Refills (list : Nat) (before after : Scheduler) : Prop where
  config : after.config = before.config
  clock : after.clock = before.clock
  machine : after.machine = before.machine
  deferred : after.deferred = before.deferred
  attached : after.attached = before.attached
  channels : after.channels = before.channels
  groups : after.groups = before.groups
  others : ∀ other, other ≠ list → after.runlists.find? other = before.runlists.find? other
  listed : after.runlists.contains = before.runlists.contains
  active : ∀ other id, after.activeOn other id = before.activeOn other id

instance (list : Nat) : IsPreorder Scheduler (Refills list) where
  refl _ := ⟨rfl, rfl, rfl, rfl, rfl, rfl, rfl, fun _ _ => rfl, rfl, fun _ _ => rfl⟩
  trans _ _ _ one two :=
    ⟨two.config.trans one.config, two.clock.trans one.clock, two.machine.trans one.machine,
      two.deferred.trans one.deferred, two.attached.trans one.attached,
      two.channels.trans one.channels, two.groups.trans one.groups,
      fun other apart => (two.others other apart).trans (one.others other apart),
      two.listed.trans one.listed,
      fun other id => (two.active other id).trans (one.active other id)⟩

/-- A runlist is replaced by one with the same active set. -/
theorem refills_putRunlist {next : Runlist} (found : scheduler.runlists.find? list = some runlist)
    (same : next.activeChannels = runlist.activeChannels) :
    Refills list scheduler (putRunlist list next scheduler).2 := by
  refine ⟨rfl, rfl, rfl, rfl, rfl, rfl, rfl, fun other apart => ?_, contains_insert found,
    fun other id => ?_⟩
  · exact (Table.find?_insert _ _ _ _).trans (if_neg apart)
  · have own : scheduler.activeOn list id = runlist.activeChannels.member id := by
      unfold activeOn
      rw [found]
    refine (activeOn_insert other id).trans ?_
    split
    · rw [same, ← own, ‹other = list›]
    · rfl

/-- A list is written into the spare buffer. -/
theorem refills_writeList (list : Nat) : Respects (Refills list) (writeList list) := by
  refine respects_runlist_bind fun scheduler runlist found => ?_
  refine related_bind (respects_get scheduler) fun read middle run => ?_
  cases run
  refine related_lift_bind fun entries _ => related_lift_bind fun spare writes => ?_
  exact related_bind (refills_putRunlist found rfl) fun _ _ _ => Std.Refl.refl _

/-- The buffers of a runlist change places. -/
theorem refills_swapBuffers (list count : Nat) :
    Respects (Refills list) (swapBuffers list count) :=
  respects_runlist_bind fun _ _ found => refills_putRunlist found rfl

/-- The steps of a wait for the hardware respect a relation. -/
structure Waits (related : Scheduler → Scheduler → Prop) : Prop where
  idles : ∀ before after, Idles before after → related before after
  shifts : ∀ before after, Shifts before after → related before after
  faults : ∀ forced : ForcedFault, Respects related (handleFaults (some forced))

/-- Waiting until a list is picked up asks, and it recovers engines in between. -/
theorem respects_awaitPickup {related : Scheduler → Scheduler → Prop}
    [IsPreorder Scheduler related] (asks : Respects related (waitRunlist list))
    (recovers : Respects related (recoverRunlistEngines list))
    (drops : ∀ targets, Respects related (dropTargets list targets)) :
    Respects related (awaitPickup list) := by
  refine asks.bind fun done => ?_
  cases done with
  | true => exact respects_pure _
  | false =>
    refine recovers.bind fun targets => ?_
    refine (drops targets).bind fun _ => ?_
    refine asks.bind fun done => ?_
    cases done with
    | true => exact respects_pure _
    | false => exact respects_refuse _

/-- Waiting until a list is picked up may recover engines. -/
theorem Waits.awaitPickup {related : Scheduler → Scheduler → Prop} [IsPreorder Scheduler related]
    (waits : Waits related) (list : Nat) : Respects related (Scheduler.awaitPickup list) :=
  respects_awaitPickup ((idles_waitRunlist list).mono waits.idles)
    (respects_get.bind fun _ => (respects_lift _).bind fun _ => waits.faults _)
    fun targets => (shifts_dropTargets list targets).mono waits.shifts

/-- Waiting until a list is picked up leaves every buffer alone, whatever recovery does. -/
theorem rests_awaitPickup (list : Nat) : Respects (Rests runlistId) (awaitPickup list) :=
  Waits.awaitPickup ⟨fun _ _ idles => idles.toStays.rests, fun _ _ => Shifts.rests,
    fun forced => rests_of_drives (drives_handleFaults (some forced))⟩ list

/-- The steps of an update of a runlist respect a relation. -/
structure Steps (list : Nat) (related : Scheduler → Scheduler → Prop) : Prop
    extends Waits related where
  refills : ∀ before after, Refills list before after → related before after
  submits : ∀ (scheduler : Scheduler) (runlist : Runlist) (count : Nat),
    scheduler.runlists.find? list = some runlist → related scheduler
      (onBus (Device.submitRunlist list runlist.spare.physical count) scheduler).2

namespace Steps

variable {related : Scheduler → Scheduler → Prop} [IsPreorder Scheduler related]

/-- A list that has been written is handed over. -/
theorem handOver (steps : Steps list related) (count : Nat) (wait : Bool) :
    Respects related (Scheduler.handOver list count wait) := by
  have swaps : Respects related (swapBuffers list count) :=
    (refills_swapBuffers list count).mono steps.refills
  refine respects_runlist_bind fun scheduler runlist found => ?_
  refine related_bind (steps.submits scheduler runlist count found) fun _ middle _ => ?_
  cases wait with
  | true => exact ((steps.awaitPickup list).bind fun _ => swaps) middle
  | false => exact swaps middle

/-- A list is written and handed over. -/
theorem submitList (steps : Steps list related) (suspend wait : Bool) :
    Respects related (Scheduler.submitList list suspend wait) := by
  rw [submitList_eq]
  refine Respects.bind ?_ fun count => steps.handOver count wait
  cases suspend with
  | true => exact respects_pure _
  | false => exact (refills_writeList list).mono steps.refills

/-- A runlist is updated. -/
theorem updateRunlist (steps : Steps list related) (id : Option Nat) (add wait : Bool) :
    Respects related (Scheduler.updateRunlist list id add wait) := by
  refine (reads_runlist list).respects.bind fun _ => ?_
  cases id with
  | none => exact steps.submitList _ wait
  | some id =>
    refine ((shifts_setActive list id add).mono steps.shifts).bind fun changed => ?_
    split
    · exact steps.submitList false wait
    · exact respects_pure _

end Steps

/-- An update changes neither the lengths of waits nor the clock. -/
theorem sameTimes_updateRunlist (list : Nat) (id : Option Nat) (add wait : Bool) :
    Respects SameTimes (updateRunlist list id add wait) :=
  Steps.updateRunlist {
    idles := fun _ _ idles => idles.toStays.sameTimes
    shifts := fun _ _ shifts => ⟨shifts.config, shifts.clock⟩
    refills := fun _ _ refills => ⟨refills.config, refills.clock⟩
    faults := fun forced =>
      (drives_handleFaults (some forced)).mono fun _ _ drives => drives.toStays.sameTimes
    submits := fun _ _ _ _ => ⟨rfl, rfl⟩ } id add wait

/-- The configuration is accepted, and every runlist has registers. -/
structure Fit (scheduler : Scheduler) : Prop where
  accepted : scheduler.config.fault? = none
  inRange : ∀ list, scheduler.runlists.contains list = true → list < Register.runlistCount

/-- Tables in shape are fit. -/
theorem Shaped.fit (shaped : scheduler.Shaped) : scheduler.Fit := by
  refine ⟨shaped.accepted, fun list listed => ?_⟩
  obtain ⟨runlist, found⟩ := exists_runlist listed
  exact shaped.inRange found

/-- Where no fault is serviced, an update leaves alone what waits, who is in use, grouped and
attached, what the hardware reports, and the disable bits. -/
structure Tends (before after : Scheduler) : Prop where
  config : after.config = before.config
  clock : after.clock = before.clock
  deferred : after.deferred = before.deferred
  attached : after.attached = before.attached
  berths : ∀ id : Nat,
    after.channels[id]?.map Channel.berth = before.channels[id]?.map Channel.berth
  listed : after.runlists.contains = before.runlists.contains
  hardware : Bus.Relays before.machine.bus after.machine.bus

instance : IsPreorder Scheduler Tends where
  refl _ := ⟨rfl, rfl, rfl, rfl, fun _ => rfl, rfl, Std.Refl.refl _⟩
  trans _ _ _ one two :=
    ⟨two.config.trans one.config, two.clock.trans one.clock, two.deferred.trans one.deferred,
      two.attached.trans one.attached, fun id => (two.berths id).trans (one.berths id),
      two.listed.trans one.listed, IsTrans.trans _ _ _ one.hardware two.hardware⟩

/-- What has the same configuration and the same runlists stays fit. -/
theorem Fit.same (fit : before.Fit) (config : after.config = before.config)
    (listed : after.runlists.contains = before.runlists.contains) : after.Fit :=
  ⟨by rw [config]; exact fit.accepted, by rw [listed]; exact fit.inRange⟩

/-- Beside updates a scheduler stays fit. -/
theorem Stays.fit (stays : Stays before after) (fit : before.Fit) : after.Fit :=
  fit.same stays.config (by rw [stays.runlists])

/-- What idles tends. -/
theorem Idles.tends (idles : Idles before after) : Tends before after :=
  ⟨idles.config, idles.clock, idles.deferred, idles.attached, idles.berths,
    by rw [idles.runlists],
    idles.hardware.reports, idles.disabled, idles.hardware.grows⟩

/-- The change of an active set tends. -/
theorem Shifts.tends (shifts : Shifts before after) : Tends before after := by
  refine ⟨shifts.config, shifts.clock, shifts.deferred, shifts.attached, shifts.berths,
    funext fun list => ?_, ?_⟩
  · have same := congrArg Option.isSome (shifts.buffers list)
    rwa [Option.isSome_map, Option.isSome_map] at same
  · rw [shifts.machine]
    exact Std.Refl.refl _

/-- Filling and swapping buffers tends. -/
theorem Refills.tends (refills : Refills list before after) : Tends before after := by
  refine ⟨refills.config, refills.clock, refills.deferred, refills.attached, fun id => ?_,
    refills.listed, ?_⟩
  · rw [refills.channels]
  · rw [refills.machine]
    exact Std.Refl.refl _

/-- Handing a list over tends. -/
theorem tends_submitRunlist (inRange : list < Register.runlistCount) (base count : Nat) :
    Respects Tends (onBus (Device.submitRunlist list base count)) :=
  respects_focus (Device.relays_submitRunlist inRange base count)
    fun _ _ hardware => ⟨rfl, rfl, rfl, rfl, fun _ => rfl, rfl, hardware⟩

/-- The steps of an update respect what allows for steps that tend and for the service of faults. -/
theorem steps_of_tends {related : Scheduler → Scheduler → Prop}
    (tends : ∀ before after, Tends before after → related before after)
    (faults : ∀ forced : ForcedFault,
      Respects (Within Fit related) (handleFaults (some forced))) (list : Nat) :
    Steps list (Within Fit related) := by
  have goes : ∀ before after, Tends before after → Within Fit related before after :=
    fun before after step fit => ⟨fit.same step.config step.listed, tends before after step⟩
  refine {
    idles := fun before after idles => goes before after idles.tends
    shifts := fun before after shifts => goes before after shifts.tends
    refills := fun before after refills => goes before after refills.tends
    faults := faults
    submits := fun scheduler runlist count found fit => ?_ }
  have inRange : list < Register.runlistCount := fit.inRange list (by
    unfold Table.contains
    rw [found]
    rfl)
  exact goes _ _ (tends_submitRunlist inRange _ count scheduler) fit

end Scheduler

end GpuSched
