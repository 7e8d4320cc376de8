import GpuSched.Proofs.Scheduler.Halted
import GpuSched.Proofs.Scheduler.Listing

/-!
# Updates of runlists

Handing a list over drives the hardware and fills a buffer. Where the hardware does not pick the
list up, the engines of the runlist are recovered, and the channels that are marked faulted then are
taken out of the active set as far as they are on the runlist. On trusted hardware that is all of
them: what the engines of a runlist run is on that runlist.
-/
namespace GpuSched

open Operation

namespace Bus

variable {bus : Bus} {touched : Set Nat}

/-- A wait for the hardware touches what every question touches. -/
theorem serves_wait {ask : Operation Bus Bool} (backoff : Backoff) (timeout : Nat)
    (each : ∀ bus, Serves ask bus touched fun _ => True) :
    Serves (backoff.wait timeout ask) bus touched fun _ => True := by
  unfold Serves
  refine (Backoff.yields_wait (fun state holds => ?_) backoff timeout (Spares.refl touched bus)).imp
    fun _ _ holds => ⟨trivial, holds⟩
  exact Yields.imp (each state) fun _ _ ⟨_, later⟩ => holds.trans later

/-- The opposite answer is given as well. -/
theorem serves_not {ask : Operation Bus Bool} (serves : Serves ask bus touched fun _ => True) :
    Serves (not <$> ask) bus touched fun _ => True := by
  unfold Serves
  rw [yields_map]
  exact serves

end Bus

namespace Scheduler

variable {exact : Prop} {scheduler before middle after : Scheduler} {id runlistId : Nat}
  {channel : Channel} {runlist next : Runlist} {touched marked dropped : Set Nat}

/-- A wait for the hardware goes by no clock or by one that can tell its times. -/
theorem waitFor_eq (timely : scheduler.Timely) {timeout : Nat}
    (asked : timeout ∈ scheduler.config.poll.timeouts) (ask : Operation Bus Bool) :
    waitFor timeout ask scheduler =
      match scheduler.config.timing with
      | .simulated => (.ok true, scheduler)
      | .wallclock => onBus (scheduler.config.poll.backoff.wait timeout ask) scheduler := by
  change (match scheduler.config.timing with
    | .simulated => pure true
    | .wallclock => onBus (scheduler.config.poll.backoff.waitBy scheduler.clock timeout ask) :
      Operation Scheduler Bool) scheduler = _
  cases timing : scheduler.config.timing with
  | simulated => rfl
  | wallclock =>
    dsimp only
    rw [Backoff.waitBy_eq_wait (timely timing timeout asked)]

/-- Waiting for the hardware stops nothing. -/
theorem yields_waitFor (sound : scheduler.Sound exact) {ask : Operation Bus Bool} {timeout : Nat}
    (asked : timeout ∈ scheduler.config.poll.timeouts) (touched : Set Nat)
    (each : ∀ bus, Bus.Serves ask bus ∅ fun _ => True) :
    (waitFor timeout ask).Yields scheduler
      (fun _ after => after.Sound exact ∧ Stops touched ∅ ∅ scheduler after)
      fun _ _ => False := by
  unfold Yields
  rw [waitFor_eq sound.shaped.timely asked]
  cases scheduler.config.timing with
  | simulated => exact ⟨sound, .refl touched scheduler⟩
  | wallclock =>
    exact (yields_drive sound (Set.empty_subset touched) (Bus.serves_wait _ _ each)).imp
      fun _ _ => And.right

/-- Waiting until a list is picked up stops nothing. -/
theorem yields_waitRunlist (sound : scheduler.Sound exact) (inRange : runlistId < 16)
    (touched : Set Nat) :
    (waitRunlist runlistId).Yields scheduler
      (fun _ after => after.Sound exact ∧ Stops touched ∅ ∅ scheduler after)
      fun _ _ => False := by
  unfold waitRunlist
  rw [yields_bind, yields_get]
  exact yields_waitFor sound scheduler.config.poll.mem_timeouts.1 touched fun bus =>
    Bus.serves_not (Device.serves_runlistPending inRange)

/-- What a target names is on a runlist, as far as it is in use. -/
def OnList (scheduler : Scheduler) (target : Target) (runlistId : Nat) : Prop :=
  match target with
  | .channel id => ∀ channel, scheduler.channels[id]? = some channel → channel.state ≠ .free →
      channel.runlist = runlistId
  | .group id => ∀ group, scheduler.groups[id]? = some group → group.inUse = true →
      group.runlist = runlistId

/-- What the status word of an engine blames is on the runlist of the engine. -/
def Honest (scheduler : Scheduler) : Prop :=
  ∀ engine ∈ scheduler.config.engines, ∀ target,
    (scheduler.statusOf engine.id).faulting = some target →
      scheduler.OnList target engine.runlist

instance (scheduler : Scheduler) (target : Target) (runlistId : Nat) :
    Decidable (scheduler.OnList target runlistId) :=
  match target with
  | .channel id => inferInstanceAs (Decidable (∀ channel ∈ scheduler.channels[id]?,
      channel.state ≠ .free → channel.runlist = runlistId))
  | .group id => inferInstanceAs (Decidable (∀ group ∈ scheduler.groups[id]?,
      group.inUse = true → group.runlist = runlistId))

instance (scheduler : Scheduler) : Decidable scheduler.Honest :=
  inferInstanceAs (Decidable (∀ engine ∈ scheduler.config.engines,
    ∀ target ∈ (scheduler.statusOf engine.id).faulting,
      scheduler.OnList target engine.runlist))

/-- The engines can be told apart by their faults, and their status words are honest. -/
structure Trusted (scheduler : Scheduler) : Prop where
  distinct : (scheduler.config.engines.map (·.faultId)).Nodup
  honest : scheduler.Honest

/-- A target stays on its runlist. -/
theorem Steady.onList (steady : Steady before after) {target : Target}
    (on : before.OnList target runlistId) : after.OnList target runlistId := by
  cases target with
  | channel id =>
    intro channel found live
    obtain ⟨held, holds, core⟩ := steady.symm.channel_found found
    rw [← runlist_eq_of_core core]
    exact on held holds fun free => live ((state_eq_free_iff core).mp free)
  | group id =>
    intro group found inUse
    obtain ⟨held, holds, core⟩ := steady.symm.group_found found
    have sameRunlist := congrArg Group.runlist core
    have sameUse := congrArg Group.inUse core
    change held.runlist = group.runlist at sameRunlist
    rw [← sameRunlist]
    exact on held holds (sameUse.trans inUse)

/-- Where tables are steady and reports are spared, hardware stays trusted. -/
theorem Trusted.steady (trusted : before.Trusted) (shaped : before.Shaped)
    (steady : Steady before after)
    (words : Bus.Spares touched before.machine.bus after.machine.bus)
    (apart : ∀ offset ∈ Device.reportRegisters, offset ∉ touched) : after.Trusted := by
  constructor
  · rw [steady.config]
    exact trusted.distinct
  · intro engine mem target blames
    rw [steady.config] at mem
    rw [statusOf_eq words apart (shaped.engineFits mem).id] at blames
    exact steady.onList (trusted.honest engine mem target blames)

/-- A fault of an engine is blamed on what the engine itself runs. -/
theorem Trusted.blamedOr_eq (trusted : scheduler.Trusted) {engine : Engine}
    (mem : engine ∈ scheduler.config.engines) :
    scheduler.blamedOr none engine.faultId =
      (scheduler.statusOf engine.id).faulting.map scheduler.normalize := by
  unfold blamedOr
  rw [Config.find_fault trusted.distinct mem]
  rfl

/-- What an honest engine is blamed for is on its runlist. -/
theorem Trusted.on_runlist (trusted : scheduler.Trusted) (sound : scheduler.Sound exact)
    {engine : Engine} (mem : engine ∈ scheduler.config.engines) {target : Target}
    (blames : (scheduler.statusOf engine.id).faulting = some target)
    (covers : id ∈ scheduler.targetChannels (scheduler.normalize target))
    (live : id ∈ scheduler.inUse) : id ∈ scheduler.onRunlist engine.runlist := by
  have on := trusted.honest engine mem target blames
  have together : ∀ {groupId : Nat} {group : Group}, scheduler.groups[groupId]? = some group →
      id ∈ group.members → group.inUse = true ∧ ∃ channel,
        scheduler.channels[id]? = some channel ∧ channel.runlist = group.runlist := by
    intro groupId group found isMember
    obtain ⟨channel, inTable, _, grouped⟩ := channel_of_member sound found isMember
    have seat := seat_of_found inTable
    obtain ⟨roster, holds, inUse, _, same⟩ := sound.consistent.grouped seat grouped
    have own := roster_of_found found
    rw [own, Option.some.injEq] at holds
    subst holds
    exact ⟨inUse, channel, inTable, same.symm⟩
  cases target with
  | group groupId =>
    obtain ⟨group, found, isMember⟩ := mem_targetChannels_group.mp covers
    obtain ⟨inUse, channel, inTable, same⟩ := together found isMember
    exact ⟨channel, inTable, same.trans (on group found inUse)⟩
  | channel own =>
    unfold normalize at covers
    dsimp only at covers
    cases found : scheduler.channels[own]? with
    | none =>
      rw [found] at covers
      rw [List.mem_singleton.mp covers] at live
      obtain ⟨channel, holds, _⟩ := live
      rw [found] at holds
      cases holds
    | some channel =>
      rw [found] at covers
      unfold Channel.faultTarget at covers
      have seat := seat_of_found found
      cases grouped : channel.group with
      | none =>
        simp only [Option.map_some, Option.getD_some, grouped] at covers
        rw [List.mem_singleton.mp covers] at live ⊢
        obtain ⟨held, holds, inUse⟩ := live
        exact ⟨held, holds, on held holds inUse⟩
      | some groupId =>
        simp only [Option.map_some, Option.getD_some, grouped] at covers
        obtain ⟨group, inTable, isMember⟩ := mem_targetChannels_group.mp covers
        obtain ⟨_, member, memberFound, same⟩ := together inTable isMember
        obtain ⟨roster, holds, _, _, shared⟩ := sound.consistent.grouped seat grouped
        have own := roster_of_found inTable
        rw [own, Option.some.injEq] at holds
        subst holds
        have live : channel.state ≠ .free := fun free => by
          have alone := sound.consistent.loose seat free
          change channel.group = none at alone
          rw [grouped] at alone
          cases alone
        exact ⟨member, memberFound, same.trans (shared.trans (on channel found live))⟩

/-- The channels that the faults of the engines of a runlist are blamed on. -/
def stalled (scheduler : Scheduler) (runlistId : Nat) : Set Nat :=
  {id | ∃ engine ∈ scheduler.config.engines, engine.runlist = runlistId ∧
    ∃ target, scheduler.blamedOr none engine.faultId = some target ∧
      id ∈ scheduler.targetChannels target}

/-- On trusted hardware a stalled channel in use is on the runlist. -/
theorem stalled_subset (trusted : scheduler.Trusted) (sound : scheduler.Sound exact) :
    scheduler.stalled runlistId ∩ scheduler.inUse ⊆ scheduler.onRunlist runlistId := by
  rintro id ⟨⟨engine, mem, here, target, blames, covers⟩, live⟩
  rw [trusted.blamedOr_eq mem, Option.map_eq_some_iff] at blames
  obtain ⟨running, runs, rfl⟩ := blames
  subst here
  exact trusted.on_runlist sound mem runs covers live

/-- Recovering the engines of a runlist stops what they are blamed for. -/
theorem yields_recoverRunlistEngines (sound : scheduler.Sound exact) (runlistId : Nat) :
    (recoverRunlistEngines runlistId).Yields scheduler
      (fun targets after => after.Sound exact ∧
        Stops Device.recoveryRegisters (scheduler.stalled runlistId) ∅ scheduler after ∧
        (∀ id ∈ after.covered targets, after.Halted id) ∧
        after.covered targets = scheduler.stalled runlistId ∩ scheduler.inUse)
      fun _ _ => False := by
  have fits : ∀ faultId ∈ (scheduler.config.engines.filter (·.runlist = runlistId)).map
      (·.faultId), faultId < 32 := by
    intro faultId mem
    obtain ⟨engine, isHere, rfl⟩ := List.mem_map.mp mem
    exact (sound.shaped.engineFits (List.mem_of_mem_filter isHere)).faultId
  obtain ⟨faults, masks, bits⟩ := maskOf_eq fits
  unfold recoverRunlistEngines
  rw [yields_bind, yields_get]
  dsimp only
  rw [yields_bind, masks, yields_lift_ok]
  let forced : ForcedFault := { faults, target := none, reason := .runlistTimeout }
  have blame : scheduler.blamedChannels (some forced) (scheduler.faultList (some forced)) =
      scheduler.stalled runlistId := by
    ext id
    constructor
    · rintro ⟨faultId, mem, target, blames, covers⟩
      obtain ⟨engine, isHere, rfl⟩ := List.mem_map.mp ((bits faultId).mp mem)
      obtain ⟨isEngine, here⟩ := List.mem_filter.mp isHere
      exact ⟨engine, isEngine, decide_eq_true_iff.mp here, target, blames, covers⟩
    · rintro ⟨engine, isEngine, here, target, blames, covers⟩
      have mem : engine ∈ scheduler.config.engines.filter (·.runlist = runlistId) :=
        List.mem_filter.mpr ⟨isEngine, decide_eq_true here⟩
      exact ⟨engine.faultId, (bits _).mpr (List.mem_map_of_mem mem), target, blames, covers⟩
  have stopped := yields_stopFaults sound (some forced)
  rw [blame, Device.faultRegisters_some] at stopped
  exact stopped

/-- Some channels were stopped. On trusted hardware each of them is out of every active set if it
is in use. -/
structure Recovered (exact : Prop) (before after : Scheduler) : Prop where
  sound : after.Sound exact
  stops : ∃ marked dropped, Stops Device.recoveryRegisters marked dropped before after ∧
    (before.Trusted → marked ∩ before.inUse ⊆ dropped)

namespace Recovered

/-- Nothing was stopped. -/
theorem quiet (sound : after.Sound exact)
    (stops : Stops Device.recoveryRegisters ∅ ∅ before after) : Recovered exact before after :=
  ⟨sound, ∅, ∅, stops, fun _ _ ⟨mem, _⟩ => absurd mem (Set.notMem_empty _)⟩

/-- Recovery after a step that stops nothing. -/
theorem after_quiet (recovered : Recovered exact middle after) (sound : before.Sound exact)
    (stops : Stops Device.recoveryRegisters ∅ ∅ before middle) : Recovered exact before after := by
  obtain ⟨marked, dropped, later, clears⟩ := recovered.stops
  refine ⟨recovered.sound, marked, dropped, stops.quiet_trans later, fun trusted => ?_⟩
  rw [← stops.toSteady.inUse]
  exact clears (trusted.steady sound.shaped stops.toSteady stops.words
    fun _ => Device.recoveryRegisters_disjoint)

/-- Recovery before a step that stops nothing. -/
theorem then_quiet (recovered : Recovered exact before middle) (sound : after.Sound exact)
    (stops : Stops Device.recoveryRegisters ∅ ∅ middle after) : Recovered exact before after := by
  obtain ⟨marked, dropped, earlier, clears⟩ := recovered.stops
  exact ⟨sound, marked, dropped, earlier.trans_quiet stops, clears⟩

/-- Recovery is steady. -/
theorem toSteady (recovered : Recovered exact before after) : Steady before after := by
  obtain ⟨_, _, stops, _⟩ := recovered.stops
  exact stops.toSteady

end Recovered

/-- Where tables are steady and reports are spared, the same channels are stalled. -/
theorem stalled_eq (shaped : before.Shaped) (steady : Steady before after)
    (words : Bus.Spares Device.recoveryRegisters before.machine.bus after.machine.bus) :
    after.stalled runlistId = before.stalled runlistId := by
  unfold stalled
  simp only [steady.config, steady.targetChannels,
    blamedOr_eq shaped steady words (fun _ => Device.recoveryRegisters_disjoint)]

/-- What the recovery of a runlist stops: the stalled channels, and those of them that are on the
runlist are taken out of its active set. -/
abbrev StopsStalled (runlistId : Nat) (before after : Scheduler) : Prop :=
  Stops Device.recoveryRegisters (before.stalled runlistId)
    (before.stalled runlistId ∩ before.inUse ∩ before.onRunlist runlistId) before after

/-- A list that is not picked up at once has the channels of its runlist stopped that are stalled.
If it is not picked up then either, the wait has failed. -/
theorem yields_awaitPickup_stops (sound : scheduler.Sound exact) (inRange : runlistId < 16) :
    (awaitPickup runlistId).Yields scheduler
      (fun _ after => after.Sound exact ∧ (Stops Device.recoveryRegisters ∅ ∅ scheduler after ∨
        StopsStalled runlistId scheduler after))
      (fun failure after => failure = .refused (.runlistUpdateFailed runlistId) ∧
        after.Sound exact ∧ StopsStalled runlistId scheduler after) := by
  unfold awaitPickup
  rw [yields_bind]
  refine (yields_waitRunlist sound inRange Device.recoveryRegisters).mono ?_ fun _ _ => False.elim
  rintro done waited ⟨soundWaited, stopsWaited⟩
  cases done with
  | true => exact ⟨soundWaited, .inl stopsWaited⟩
  | false =>
    change Yields (recoverRunlistEngines runlistId >>= fun targets => _) waited _ _
    rw [yields_bind]
    refine (yields_recoverRunlistEngines soundWaited runlistId).mono ?_ fun _ _ => False.elim
    rintro targets marked ⟨soundMarked, stopsMarked, halted, covered⟩
    rw [yields_bind]
    refine (yields_dropTargets soundMarked halted).mono ?_ fun _ _ => False.elim
    rintro _ dropped ⟨soundDropped, stopsDropped⟩
    rw [covered, stopsMarked.toSteady.onRunlist] at stopsDropped
    have both := stopsMarked.trans (stopsDropped.mono (Set.empty_subset _))
    rw [Set.union_empty, Set.empty_union, stalled_eq sound.shaped stopsWaited.toSteady
      stopsWaited.words, stopsWaited.toSteady.inUse,
      stopsWaited.toSteady.onRunlist] at both
    have whole : StopsStalled runlistId scheduler dropped := stopsWaited.quiet_trans both
    rw [yields_bind]
    refine (yields_waitRunlist soundDropped inRange Device.recoveryRegisters).mono ?_
      fun _ _ => False.elim
    rintro done after ⟨soundAfter, stopsAfter⟩
    cases done with
    | true => exact ⟨soundAfter, .inr (whole.trans_quiet stopsAfter)⟩
    | false => exact ⟨rfl, soundAfter, whole.trans_quiet stopsAfter⟩

/-- Stopping what is stalled is a recovery. -/
theorem Recovered.stalled (soundBefore : before.Sound exact) (sound : after.Sound exact)
    (stops : StopsStalled runlistId before after) : Recovered exact before after :=
  ⟨sound, _, _, stops, fun trusted _ mem => ⟨mem, stalled_subset trusted soundBefore mem⟩⟩

/-- A list that is not picked up has the engines of its runlist recovered. -/
theorem yields_awaitPickup (sound : scheduler.Sound exact) (inRange : runlistId < 16) :
    (awaitPickup runlistId).Yields scheduler
      (fun _ after => Recovered exact scheduler after)
      (fun failure after => (∃ error, failure = .refused error) ∧
        Recovered exact scheduler after) := by
  refine (yields_awaitPickup_stops sound inRange).mono ?_ ?_
  · rintro _ after ⟨soundAfter, quiet | stops⟩
    · exact .quiet soundAfter quiet
    · exact .stalled sound soundAfter stops
  · rintro failure after ⟨rfl, soundAfter, stops⟩
    exact ⟨⟨_, rfl⟩, .stalled sound soundAfter stops⟩

/-- A runlist that is listed is found. -/
theorem exists_runlist (listed : scheduler.runlists.contains runlistId = true) :
    ∃ runlist, scheduler.runlists.find? runlistId = some runlist := by
  unfold Table.contains at listed
  exact Option.isSome_iff_exists.mp listed

/-- A runlist with the same active sets in the place of another stops nothing. -/
theorem kept_putRunlist (sound : scheduler.Sound exact)
    (found : scheduler.runlists.find? runlistId = some runlist)
    (fits : next.Shaped scheduler.config.channelCount scheduler.config.groupCount)
    (channels : next.activeChannels = runlist.activeChannels)
    (groups : next.activeGroups = runlist.activeGroups) (touched : Set Nat) :
    ({ scheduler with runlists := scheduler.runlists.insert runlistId next }).Sound exact ∧
      Stops touched ∅ ∅ scheduler
        { scheduler with runlists := scheduler.runlists.insert runlistId next } := by
  refine ⟨sound.same (sound.shaped.putRunlist found fits)
    (enrollment_runlist found channels groups), ?_⟩
  have same : ∀ list other, ({ scheduler with
      runlists := scheduler.runlists.insert runlistId next }).activeOn list other =
        scheduler.activeOn list other := fun list other =>
    congrFun (congrFun (congrArg Enrollment.active (enrollment_runlist found channels groups)) list)
      other
  exact { Stops.refl touched scheduler with
    listed := contains_insert found
    stays := fun {list other} _ => same list other
    drops := fun mem => absurd mem (Set.notMem_empty _) }

/-- What is handed over is written first, unless the runlist is suspended. -/
theorem yields_prepareList (sound : scheduler.Sound exact)
    (listed : scheduler.runlists.contains runlistId = true) (suspend : Bool) :
    (if suspend then pure 0 else writeList runlistId).Yields scheduler
      (fun _ after => after.Sound exact ∧
        Stops Device.recoveryRegisters ∅ ∅ scheduler after)
      fun _ _ => False := by
  obtain ⟨runlist, found⟩ := exists_runlist listed
  cases suspend with
  | true => exact ⟨sound, .refl _ scheduler⟩
  | false =>
    refine (yields_writeList sound found).imp ?_
    rintro _ _ ⟨_, spare, size, _, _, rfl⟩
    exact kept_putRunlist sound found ((sound.shaped.runlist found).withSpare size) rfl rfl _

/-- The buffers of a runlist that is there can change places. -/
theorem yields_swapBuffers (sound : scheduler.Sound exact)
    (listed : scheduler.runlists.contains runlistId = true) (count : Nat) :
    (swapBuffers runlistId count).Yields scheduler
      (fun _ after => after.Sound exact ∧
        Stops Device.recoveryRegisters ∅ ∅ scheduler after)
      fun _ _ => False := by
  obtain ⟨runlist, found⟩ := exists_runlist listed
  unfold swapBuffers putRunlist
  rw [yields_bind, yields_runlist_found found, yields_modify]
  exact kept_putRunlist sound found (sound.shaped.runlist found).swapped rfl rfl _

/-- What is left of handing a list over once it is written. -/
def handOver (runlistId count : Nat) (wait : Bool) : Operation Scheduler Unit := do
  onBus (Device.submitRunlist runlistId (← Scheduler.runlist runlistId).spare.physical count)
  if wait then
    awaitPickup runlistId
  swapBuffers runlistId count

/-- A list is written before it is handed over. -/
theorem submitList_eq (runlistId : Nat) (suspend wait : Bool) :
    submitList runlistId suspend wait =
      (if suspend then pure 0 else writeList runlistId) >>=
        fun count => handOver runlistId count wait := by
  cases suspend <;> rfl

/-- Handing a list over stops only what recovery stops. Without a wait there is no recovery, and
nothing fails. -/
theorem yields_submitList (sound : scheduler.Sound exact)
    (listed : scheduler.runlists.contains runlistId = true) (suspend wait : Bool) :
    (submitList runlistId suspend wait).Yields scheduler
      (fun _ after => Recovered exact scheduler after ∧
        (wait = false → Stops Device.recoveryRegisters ∅ ∅ scheduler after))
      (fun failure after => wait = true ∧ (∃ error, failure = .refused error) ∧
        Recovered exact scheduler after) := by
  obtain ⟨runlist, there⟩ := exists_runlist listed
  have inRange : runlistId < 16 := sound.shaped.inRange there
  rw [submitList_eq, yields_bind]
  refine (yields_prepareList sound listed suspend).mono ?_ fun _ _ => False.elim
  rintro count written ⟨soundWritten, stopsWritten⟩
  rw [← stopsWritten.toSteady.listed] at listed
  obtain ⟨runlist, found⟩ := exists_runlist listed
  unfold handOver
  rw [yields_bind, yields_runlist_found found, yields_bind]
  refine (yields_drive soundWritten Device.listRegisters_subset
    (Device.serves_submitRunlist inRange _ _)).mono ?_ fun _ _ => False.elim
  rintro _ handed ⟨_, soundHanded, stopsHanded⟩
  rw [← stopsHanded.toSteady.listed] at listed
  have quiet := stopsWritten.quiet_trans stopsHanded
  cases wait with
  | false =>
    refine (yields_swapBuffers soundHanded listed count).mono ?_ fun _ _ => False.elim
    rintro _ after ⟨soundAfter, stopsAfter⟩
    have whole := quiet.quiet_trans stopsAfter
    exact ⟨.quiet soundAfter whole, fun _ => whole⟩
  | true =>
    change Yields (awaitPickup runlistId >>= fun _ => swapBuffers runlistId count) handed _ _
    rw [yields_bind]
    refine (yields_awaitPickup soundHanded inRange).mono ?_ ?_
    · intro _ picked recovered
      rw [← recovered.toSteady.listed] at listed
      refine (yields_swapBuffers recovered.sound listed count).mono ?_ fun _ _ => False.elim
      rintro _ after ⟨soundAfter, stopsAfter⟩
      exact ⟨(recovered.then_quiet soundAfter stopsAfter).after_quiet sound quiet, by simp⟩
    · rintro failure after ⟨refused, recovered⟩
      exact ⟨rfl, refused, recovered.after_quiet sound quiet⟩

/-- An update has changed the active set at one channel at most, and recovery may have followed,
unless the hardware is not waited for. A channel that is to be taken away is not in the set
afterwards. -/
structure Updated (exact : Prop) (runlistId : Nat) (id : Option Nat) (add wait : Bool)
    (before after : Scheduler) : Prop where
  steps : ∃ middle, middle.Sound exact ∧
    (middle = before ∨ ∃ channel, id = some channel ∧ Toggled runlistId channel add before middle) ∧
    Recovered exact middle after ∧
    (wait = false → Stops Device.recoveryRegisters ∅ ∅ middle after)
  off : add = false → ∀ channel, id = some channel → after.activeOn runlistId channel = false

/-- A channel that is in no active set stays out while channels are stopped. -/
theorem Stops.off (stops : Stops touched marked dropped before after)
    (off : before.activeOn runlistId id = false) : after.activeOn runlistId id = false := by
  by_cases mem : id ∈ dropped
  · exact stops.drops mem
  · rw [stops.stays mem]
    exact off

/-- An update changes the active set at one channel at most and hands the list over. It never
aborts. -/
theorem yields_updateRunlist (sound : scheduler.Sound exact) (id : Option Nat) (add wait : Bool) :
    (updateRunlist runlistId id add wait).Yields scheduler
      (fun _ after => Updated exact runlistId id add wait scheduler after)
      (fun failure after => (∃ error, failure = .refused error) ∧
        Updated exact runlistId id add wait scheduler after) := by
  have unchanged : Recovered exact scheduler scheduler ∧
      (wait = false → Stops Device.recoveryRegisters ∅ ∅ scheduler scheduler) :=
    ⟨.quiet sound (.refl _ scheduler), fun _ => .refl _ scheduler⟩
  unfold updateRunlist
  rw [yields_bind, yields_runlist]
  cases found : scheduler.runlists.find? runlistId with
  | none =>
    refine ⟨⟨_, rfl⟩, ⟨scheduler, sound, .inl rfl, unchanged⟩, fun _ channel _ => ?_⟩
    unfold activeOn
    rw [found]
  | some runlist =>
    have listed := contains_of_find? found
    cases id with
    | none =>
      refine (yields_submitList sound listed (!add) wait).mono ?_ ?_
      · exact fun _ after recovered => ⟨⟨scheduler, sound, .inl rfl, recovered⟩, by simp⟩
      · rintro failure after ⟨waits, refused, recovered⟩
        exact ⟨refused, ⟨scheduler, sound, .inl rfl, recovered, by simp [waits]⟩, by simp⟩
    | some channel =>
      dsimp only
      rw [yields_bind]
      refine (yields_setActive sound add).mono ?_ ?_
      · rintro changed middle ⟨soundMiddle, outcome⟩
        cases changed with
        | false =>
          obtain ⟨rfl, same⟩ := outcome
          refine ⟨⟨middle, sound, .inl rfl, unchanged⟩, ?_⟩
          rintro rfl _ ⟨⟩
          exact same
        | true =>
          have toggled : Toggled runlistId channel add scheduler middle := outcome
          rw [← toggled.toSteady.listed] at listed
          have off : ∀ {after}, Recovered exact middle after → add = false →
              ∀ other, some channel = some other → after.activeOn runlistId other = false := by
            rintro after recovered rfl _ ⟨⟩
            obtain ⟨_, _, stops, _⟩ := recovered.stops
            refine stops.off ?_
            rw [toggled.active, if_pos ⟨rfl, rfl⟩]
          refine (yields_submitList soundMiddle listed false wait).mono ?_ ?_
          · exact fun _ after recovered =>
              ⟨⟨middle, soundMiddle, .inr ⟨channel, rfl, toggled⟩, recovered⟩, off recovered.1⟩
          · rintro failure after ⟨waits, refused, recovered⟩
            exact ⟨refused, ⟨middle, soundMiddle, .inr ⟨channel, rfl, toggled⟩, recovered,
              by simp [waits]⟩, off recovered⟩
      · rintro failure middle ⟨rfl, refused, off⟩
        refine ⟨refused, ⟨middle, sound, .inl rfl, unchanged⟩, ?_⟩
        rintro removes _ ⟨⟩
        exact off removes

/-- No faulted channel is in an active set. -/
theorem stopped_iff : scheduler.enrollment.Stopped ↔
    ∀ {list id : Nat} {channel : Channel}, scheduler.channels[id]? = some channel →
      channel.state = .faulted → scheduler.activeOn list id = false := by
  constructor
  · intro stopped list id channel found faulted
    have seat := seat_of_found found
    exact stopped list id channel.seat seat faulted
  · intro off list id seat holds faulted
    obtain ⟨channel, found, rfl⟩ := Option.map_eq_some_iff.mp holds
    exact off found faulted

/-- No faulted channel is active where the channels that were marked are dropped. -/
theorem Stops.stopped (stops : Stops touched marked dropped before after)
    (clears : marked ∩ before.inUse ⊆ dropped) (stopped : before.enrollment.Stopped) :
    after.enrollment.Stopped := by
  rw [stopped_iff]
  intro list id channel found faulted
  by_cases mem : id ∈ dropped
  · exact stops.drops mem
  · obtain ⟨held, holds, core⟩ := stops.toSteady.symm.channel_found found
    have kept : id ∉ marked ∨ held.state = .free := by
      by_contra changed
      rw [not_or, not_not] at changed
      exact mem (clears ⟨changed.1, held, holds, changed.2⟩)
    have same := stops.spared holds kept
    rw [found, Option.some.injEq] at same
    subst same
    rw [stops.stays mem]
    exact stopped_iff.mp stopped holds faulted

/-- Changing the active set of a runlist at one channel makes no faulted channel active. -/
theorem Toggled.stopped {add : Bool} (toggled : Toggled runlistId id add before after)
    (stopped : before.enrollment.Stopped) : after.enrollment.Stopped := by
  rw [stopped_iff] at stopped ⊢
  intro list other channel found faulted
  rw [toggled.active]
  by_cases own : other = id
  · subst own
    obtain ⟨held, holds, _, _, changed⟩ := toggled.own
    rw [found, Option.some.injEq] at changed
    rw [changed] at faulted
    change toggledState held.state add = .faulted at faulted
    unfold toggledState at faulted
    cases add with
    | true => cases faulted
    | false =>
      rw [if_neg (by decide)] at faulted
      split
      · rfl
      · refine stopped holds ?_
        split at faulted
        · cases faulted
        · exact faulted
  · rw [if_neg fun same => own same.2]
    rw [toggled.others own] at found
    exact stopped found faulted

/-- Changing an active set keeps hardware trusted. -/
theorem Toggled.trusted {add : Bool} (toggled : Toggled runlistId id add before after)
    (sound : before.Sound exact) (trusted : before.Trusted) : after.Trusted := by
  have spares : Bus.Spares ∅ before.machine.bus after.machine.bus := by
    rw [toggled.machine]
    exact .refl ∅ _
  exact trusted.steady sound.shaped toggled.toSteady spares fun _ _ => Set.notMem_empty _

namespace Updated

variable {runlistId : Nat} {id : Option Nat} {add wait : Bool}

/-- An update leaves a scheduler sound. -/
theorem sound (updated : Updated exact runlistId id add wait before after) : after.Sound exact := by
  obtain ⟨_, _, _, recovered, _⟩ := updated.steps
  exact recovered.sound

/-- An update is steady. -/
theorem toSteady (updated : Updated exact runlistId id add wait before after) :
    Steady before after := by
  obtain ⟨middle, _, rfl | ⟨_, _, toggled⟩, recovered, _⟩ := updated.steps
  · exact recovered.toSteady
  · exact toggled.toSteady.trans recovered.toSteady

/-- On trusted hardware an update leaves no faulted channel active. -/
theorem stopped (updated : Updated exact runlistId id add wait before after)
    (sound : before.Sound exact) (trusted : before.Trusted) (stopped : before.enrollment.Stopped) :
    after.enrollment.Stopped := by
  obtain ⟨middle, _, first, recovered, _⟩ := updated.steps
  obtain ⟨marked, dropped, stops, clears⟩ := recovered.stops
  rcases first with rfl | ⟨_, _, toggled⟩
  · exact stops.stopped (clears trusted) stopped
  · exact stops.stopped (clears (toggled.trusted sound trusted)) (toggled.stopped stopped)

end Updated

end Scheduler

end GpuSched
