import GpuSched.Proofs.Scheduler.Buffers
import GpuSched.Proofs.Scheduler.Serialization
import Mathlib.Data.List.Infix

/-!
# What the hardware reads once an update has returned

An update that submits a list and returns makes that list the current one. The list is what was
active when it was written. The recovery after a wait that ran out of time stops channels later than
that and writes no list, so the hardware is left with a list of channels some of which are no longer
active: exactly those that the update has faulted.
-/
namespace GpuSched

open Operation

namespace Scheduler

variable {exact : Prop} {scheduler before middle handed after : Scheduler} {runlistId id : Nat}
  {runlist : Runlist} {entries : List RunlistEntry}

/-- An update that returns leaves its list in the current buffer, whether or not the hardware took
it up at once. -/
theorem snapshot_of_takeUp (hands : Handed runlistId entries before handed) {wait : Bool}
    (returns : takeUp runlistId entries.length wait handed = (.ok (), after)) :
    snapshot runlistId after = (.ok entries, after) := by
  obtain ⟨runlist, spare, base, found, written, _, _, reads, _⟩ := hands.written
  have there : handed.runlists.find? runlistId = some { runlist with spare } := by
    rw [written, Table.find?_insert, if_pos rfl]
  have swaps : ∀ ready : Scheduler, SameBuffers handed ready →
      swapBuffers runlistId entries.length ready = (.ok (), after) →
      snapshot runlistId after = (.ok entries, after) := by
    intro ready same swapped
    have kept := same runlistId
    rw [there, Option.map_some, Option.map_eq_some_iff] at kept
    obtain ⟨last, holds, buffers⟩ := kept
    have spares : last.spare = spare := congrArg (·.2.1) buffers
    rw [← spares] at reads
    obtain ⟨reached, runs, snapshots⟩ := exists_swapped holds reads
    rw [swapped, Prod.mk.injEq] at runs
    rw [runs.2]
    exact snapshots
  cases wait with
  | false => exact swaps handed (fun _ => rfl) returns
  | true =>
    have waits : Rests runlistId handed (awaitPickup runlistId handed).2 :=
      rests_awaitPickup runlistId handed
    change (awaitPickup runlistId >>= fun _ => swapBuffers runlistId entries.length) handed = _
      at returns
    rw [run_bind] at returns
    rcases run : awaitPickup runlistId handed with ⟨_ | _, ready⟩ <;> rw [run] at returns waits
    · cases returns
    · exact swaps ready waits.buffers returns

/-- A group is active on a runlist just when it has active members there. -/
theorem groupActiveOn_iff (sound : scheduler.Sound True) {groupId : Nat} :
    scheduler.groupActiveOn runlistId groupId = true ↔
      ∃ group : Group, scheduler.groups[groupId]? = some group ∧ group.runlist = runlistId ∧
        0 < group.members.countP (scheduler.activeOn runlistId) := by
  have counted := sound.counted trivial
  refine counted.bit.trans ?_
  constructor
  · rintro ⟨roster, holds, rfl, positive⟩
    have counter := counted.counter holds
    obtain ⟨group, found, rfl⟩ := Option.map_eq_some_iff.mp holds
    rw [counter] at positive
    exact ⟨group, found, rfl, positive⟩
  · rintro ⟨group, found, rfl, positive⟩
    have holds := roster_of_found found
    refine ⟨group.roster, holds, rfl, ?_⟩
    rw [counted.counter holds]
    exact positive

namespace Steady

/-- A channel stays without a group. -/
theorem ungrouped (steady : Steady before after) : after.ungrouped = before.ungrouped := by
  funext id
  have core := steady.channel id
  unfold Scheduler.ungrouped
  cases found : after.channels[id]? with
  | none =>
    rw [found, Option.map_none, eq_comm, Option.map_eq_none_iff] at core
    rw [core]
  | some channel =>
    obtain ⟨held, holds, same⟩ := steady.symm.channel_found found
    rw [holds]
    dsimp only
    rw [group_eq_of_core same]

/-- A group keeps its timeslice. -/
theorem groupTimeslice (steady : Steady before after) :
    after.groupTimeslice = before.groupTimeslice := by
  funext id
  have core := steady.group id
  unfold Scheduler.groupTimeslice
  cases found : after.groups[id]? with
  | none =>
    rw [found, Option.map_none, eq_comm, Option.map_eq_none_iff] at core
    rw [core]
  | some group =>
    obtain ⟨held, holds, same⟩ := steady.symm.group_found found
    have timeslice := congrArg Group.timeslice same
    rw [holds]
    exact timeslice.symm

/-- Where the same channels are active, the same groups are. -/
theorem groupActiveOn (steady : Steady before after) (soundBefore : before.Sound True)
    (soundAfter : after.Sound True)
    (same : after.activeOn runlistId = before.activeOn runlistId) :
    after.groupActiveOn runlistId = before.groupActiveOn runlistId := by
  have one : ∀ {first second : Scheduler} {groupId : Nat}, Steady first second →
      first.Sound True → second.Sound True →
      second.activeOn runlistId = first.activeOn runlistId →
      first.groupActiveOn runlistId groupId = true →
      second.groupActiveOn runlistId groupId = true := by
    intro first second groupId steady soundFirst soundSecond same active
    obtain ⟨group, found, here, positive⟩ := (groupActiveOn_iff soundFirst).mp active
    obtain ⟨changed, holds, core⟩ := steady.group_found found
    have members := congrArg Group.members core
    have runlist := congrArg Group.runlist core
    change changed.members = group.members at members
    refine (groupActiveOn_iff soundSecond).mpr ⟨changed, holds, runlist.trans here, ?_⟩
    rw [members, same]
    exact positive
  funext groupId
  rw [Bool.eq_iff_iff]
  exact ⟨one steady.symm soundAfter soundBefore same.symm, one steady soundBefore soundAfter same⟩

/-- Where the same channels are active, the list is the same. -/
theorem listing (steady : Steady before after) (soundBefore : before.Sound True)
    (soundAfter : after.Sound True)
    (same : after.activeOn runlistId = before.activeOn runlistId) :
    after.listing runlistId = before.listing runlistId := by
  have channels : after.channels.size = before.channels.size := by
    rw [soundAfter.shaped.channels, soundBefore.shaped.channels, steady.config]
  have groups : after.groups.size = before.groups.size := by
    rw [soundAfter.shaped.groups, soundBefore.shaped.groups, steady.config]
  have members : after.activeMembers runlistId = before.activeMembers runlistId := by
    funext groupId
    unfold Scheduler.activeMembers
    rw [steady.targetChannels, same]
  have entries : after.groupListing runlistId = before.groupListing runlistId := by
    funext groupId
    unfold Scheduler.groupListing
    rw [members, steady.groupTimeslice]
  unfold Scheduler.listing loneChannels activeGroupIds
  rw [channels, groups, same, steady.ungrouped,
    steady.groupActiveOn soundBefore soundAfter same, entries]

end Steady

/-- A channel has faulted. -/
def Faulted (scheduler : Scheduler) (id : Nat) : Prop :=
  ∃ channel : Channel, scheduler.channels[id]? = some channel ∧ channel.state = .faulted

/-- Recovery takes those channels out of the active sets that it faults, and no others. -/
theorem Recovered.active_iff (recovered : Recovered exact before after)
    (sound : before.Sound exact) (stopped : before.enrollment.Stopped)
    (stoppedAfter : after.enrollment.Stopped) :
    after.activeOn runlistId id = true ↔
      before.activeOn runlistId id = true ∧ ¬ after.Faulted id := by
  obtain ⟨marked, dropped, stops, _⟩ := recovered.stops
  constructor
  · intro active
    have kept : id ∉ dropped := fun mem => by
      rw [stops.drops mem] at active
      cases active
    refine ⟨(stops.stays kept).symm.trans active, fun ⟨channel, found, faulted⟩ => ?_⟩
    have off : after.activeOn runlistId id = false := stopped_iff.mp stoppedAfter found faulted
    rw [off] at active
    cases active
  · rintro ⟨active, running⟩
    obtain ⟨seat, holds, here, state⟩ := sound.consistent.running active
    obtain ⟨channel, found, rfl⟩ := Option.map_eq_some_iff.mp holds
    have runs : channel.state = .active := state.resolve_right fun faulted => by
      have off : before.activeOn runlistId id = false := stopped_iff.mp stopped found faulted
      rw [off] at active
      cases active
    by_cases mem : id ∈ marked
    · obtain ⟨changed, there, core⟩ := stops.toSteady.channel_found found
      have live : changed.state ≠ .free := fun free => by
        have unused := (state_eq_free_iff core).mp free
        rw [runs] at unused
        cases unused
      exact absurd ⟨changed, there, stops.faulted mem there live⟩ running
    · have same := stops.spared found (.inl mem)
      have on := recovered.sound.consistent.active (seat_of_found same) runs
      change channel.runlist = runlistId at here
      rw [← here]
      exact on

/-- What the hardware reads of a runlist once an update has returned. -/
structure Current (runlistId : Nat) (entries : List RunlistEntry) (written after : Scheduler) :
    Prop where
  /-- The list is the one in the current buffer. -/
  reads : snapshot runlistId after = (.ok entries, after)
  /-- It lists what was active when it was written. -/
  lists : written.Lists runlistId entries
  /-- What is active now is what is listed, without what has been faulted since. -/
  active : ∀ id : Nat, after.activeOn runlistId id = true ↔
    id ∈ entries.filterMap RunlistEntry.channelId? ∧ ¬ after.Faulted id
  /-- If nothing that is listed has been faulted, it lists what is active now. -/
  exact : (∀ id ∈ entries.filterMap RunlistEntry.channelId?, ¬ after.Faulted id) →
    after.Lists runlistId entries

/-- An update that submits a list and returns leaves the hardware with that list. -/
theorem exists_current (sound : middle.Sound True) (trusted : middle.Trusted)
    (stopped : middle.enrollment.Stopped) (found : middle.runlists.find? runlistId = some runlist)
    {wait : Bool} (returns : submitList runlistId false wait middle = (.ok (), after)) :
    ∃ entries, Current runlistId entries middle after := by
  let entries := (middle.listing runlistId).map RunlistEntry.stored
  obtain ⟨handed, hands, goesOn⟩ := exists_handed sound found wait
  have count : entries.length = (middle.listing runlistId).length := List.length_map _
  rw [goesOn, ← count] at returns
  have lists : middle.Lists runlistId entries := lists_listing sound
  have listed := contains_of_find? found
  have recovered : Recovered True middle after :=
    ((yields_submitList sound listed false wait).of_ok (by rw [goesOn, ← count]; exact returns)).1
  have stoppedAfter : after.enrollment.Stopped := by
    obtain ⟨marked, dropped, stops, clears⟩ := recovered.stops
    exact stops.stopped (clears trusted) stopped
  have active : ∀ id : Nat, after.activeOn runlistId id = true ↔
      id ∈ entries.filterMap RunlistEntry.channelId? ∧ ¬ after.Faulted id := by
    intro id
    rw [lists.every]
    exact recovered.active_iff sound stopped stoppedAfter
  refine ⟨entries, snapshot_of_takeUp hands returns, lists, active, fun spared => ?_⟩
  have same : after.activeOn runlistId = middle.activeOn runlistId := by
    funext id
    rw [Bool.eq_iff_iff, active, ← lists.every]
    exact ⟨And.left, fun isListed => ⟨isListed, spared id isListed⟩⟩
  have order : entries = (after.listing runlistId).map RunlistEntry.stored := by
    rw [recovered.toSteady.listing sound recovered.sound same]
  rw [order]
  exact lists_listing recovered.sound

end Scheduler

namespace Session

open Scheduler

variable {config : Config} {machine : Machine} {session : Session}

/-- Whenever an update of a reached scheduler submits a list and returns, the hardware is left with
what was active when the list was written. The channels on it that are no longer active are those
that the update itself has faulted. -/
theorem reached_current (distinct : (config.engines.map (·.faultId)).Nodup)
    (reached : Reached config machine Scheduler.Honest session)
    (honest : session.scheduler.Honest) {runlistId : Nat} {id : Option Nat} {add wait : Bool}
    {middle after : Scheduler} (submits : Submits runlistId add session.scheduler id middle)
    (returns : updateRunlist runlistId id add wait session.scheduler = (.ok (), after)) :
    ∃ entries, Current runlistId entries middle after := by
  obtain ⟨intact, same⟩ := reached.intact True fun _ same honest _ =>
    trusted_of_honest distinct same honest
  have trusted := trusted_of_honest distinct same honest
  obtain ⟨sound, _, ⟨runlist, found⟩, updates⟩ :=
    updateRunlist_of_submits intact.sound submits wait
  rw [updates] at returns
  have ready : middle.Trusted ∧ middle.enrollment.Stopped := by
    have stopped := intact.stopped trivial
    cases submits with
    | again => exact ⟨trusted, stopped⟩
    | changed changes =>
      have toggled : Toggled runlistId _ add session.scheduler middle :=
        ((yields_setActive intact.sound add).of_ok changes).2
      exact ⟨toggled.trusted intact.sound trusted, toggled.stopped stopped⟩
  exact exists_current sound ready.1 ready.2 found returns

/-- The engine hangs while it runs a group, and a channel on its own becomes active: the hardware
takes the list up after the reset and reads the member of the group as well. -/
theorem current_after_group_fault : ∃ session middle after,
    Reached oneEngine poweredUp Scheduler.Honest session ∧
      updateRunlist 0 (some 1) true true session.scheduler = (.ok (), after) ∧
      Current 0 [.channel 1, .group 0 1 {}, .channel 0] middle after := by
  let requests : List Request :=
    [.bind 0 { runlist := 0 }, .bind 1 { runlist := 0 }, .createGroup 0, .join 0 0,
      .update 0 (some 0) true true, .inject (.engineStatus 0 (.running (.group 0))),
      .inject (.hangRunlist 0 .untilReset)]
  let list : List RunlistEntry := [.channel 1, .group 0 1 {}, .channel 0]
  have outcome : (Scheduler.create oneEngine poweredUp).toOption.map (fun scheduler => decide
      ((∀ done ∈ requests.inits, (performAll { scheduler } done).scheduler.Honest) ∧
        (setActive 0 1 true (performAll { scheduler } requests).scheduler).1.toOption = some true ∧
        (setActive 0 1 true (performAll { scheduler } requests).scheduler).2.listing 0 = list ∧
        (updateRunlist 0 (some 1) true true
          (performAll { scheduler } requests).scheduler).1.toOption = some ())) =
          some true := by decide +kernel
  obtain ⟨scheduler, created, holds⟩ := exists_created outcome
  obtain ⟨honest, changes, listing, returns⟩ := decide_eq_true_iff.mp holds
  have reached := (Reached.created created).performAll honest
  have last := honest requests ((List.mem_inits _ _).mpr (List.prefix_refl _))
  have submits : Submits 0 true (performAll { scheduler } requests).scheduler (some 1)
      (setActive 0 1 true (performAll { scheduler } requests).scheduler).2 :=
    .changed (run_of_toOption changes)
  have returned := run_of_toOption returns
  obtain ⟨entries, current⟩ := reached_current (by decide) reached last submits returned
  have same : entries = list := by
    rw [current.lists.order, listing]
    rfl
  rw [same] at current
  exact ⟨_, _, _, reached, returned, current⟩

/-- The engine hangs while it runs one channel and another becomes active: the update returns, and
the hardware reads a channel that the update has faulted and taken out of the active set. -/
theorem stale_after_reset : ∃ session after,
    Reached oneEngine poweredUp Scheduler.Honest session ∧ session.scheduler.Honest ∧
      updateRunlist 0 (some 1) true true session.scheduler = (.ok (), after) ∧
      (snapshot 0 after).1 = .ok [.channel 0, .channel 1] ∧
      (activeChannels 0 after).1 = .ok [1] := by
  let requests : List Request :=
    [.bind 0 { runlist := 0 }, .bind 1 { runlist := 0 }, .update 0 (some 0) true true,
      .inject (.engineStatus 0 (.running (.channel 0))), .inject (.hangRunlist 0 .untilReset)]
  have outcome : (Scheduler.create oneEngine poweredUp).toOption.map (fun scheduler => decide
      ((∀ done ∈ requests.inits, (performAll { scheduler } done).scheduler.Honest) ∧
        (updateRunlist 0 (some 1) true true
          (performAll { scheduler } requests).scheduler).1.toOption = some () ∧
        (snapshot 0 (updateRunlist 0 (some 1) true true
          (performAll { scheduler } requests).scheduler).2).1.toOption =
            some [.channel 0, .channel 1] ∧
        (activeChannels 0 (updateRunlist 0 (some 1) true true
          (performAll { scheduler } requests).scheduler).2).1.toOption = some [1])) =
          some true := by decide +kernel
  obtain ⟨scheduler, created, holds⟩ := exists_created outcome
  obtain ⟨honest, returns, reads, active⟩ := decide_eq_true_iff.mp holds
  have reached := (Reached.created created).performAll honest
  have last := honest requests ((List.mem_inits _ _).mpr (List.prefix_refl _))
  exact ⟨_, _, reached, last, run_of_toOption returns, eq_ok_of_toOption reads,
    eq_ok_of_toOption active⟩

end Session

end GpuSched
