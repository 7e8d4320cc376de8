import GpuSched.Proofs.Register.Channels
import GpuSched.Proofs.Scheduler.Buffers
import GpuSched.Proofs.Scheduler.Serialization

/-!
# Channels that are released

With its last reference a channel is gone from every record of the scheduler and from its registers.
The list of its runlist is written again only if the channel was in the active set. So a list that
still holds the channel from before it was stopped goes on holding it, and that is the one way in
which the hardware can be left with a channel that has been released.
-/
namespace GpuSched

open Operation

namespace Scheduler

variable {exact : Prop} {scheduler before middle handed after : Scheduler} {runlistId list id : Nat}
  {channel : Channel} {runlist : Runlist} {α : Type}

/-- The hardware reads a list that holds a channel. -/
def Shows (scheduler : Scheduler) (runlistId id : Nat) : Prop :=
  ∃ entries, (snapshot runlistId scheduler).1 = .ok entries ∧
    id ∈ entries.filterMap RunlistEntry.channelId?

/-- What the hardware reads is in the current buffer. -/
theorem snapshot_eq (runlistId : Nat) (scheduler : Scheduler) :
    (snapshot runlistId scheduler).1 =
      match (scheduler.runlists.find? runlistId).map Runlist.buffers with
      | some (current, _, count) => readEntries current count
      | none => .error (.refused (.invalidRunlist runlistId)) := by
  unfold snapshot
  cases found : scheduler.runlists.find? runlistId with
  | none =>
    unfold Scheduler.runlist
    have state : (get : Operation Scheduler Scheduler) scheduler = (.ok scheduler, scheduler) := rfl
    rw [run_bind, run_bind_of_ok state, found]
    rfl
  | some runlist =>
    rw [run_bind_of_ok (run_runlist found), Option.map_some]
    unfold Runlist.buffers
    dsimp only
    cases readEntries runlist.current runlist.count <;> rfl

/-- Where the buffers of a runlist stay, its list shows the same channels. -/
theorem shows_iff_of_buffers (same : (after.runlists.find? runlistId).map Runlist.buffers =
      (before.runlists.find? runlistId).map Runlist.buffers) :
    after.Shows runlistId id ↔ before.Shows runlistId id := by
  unfold Shows
  rw [snapshot_eq, snapshot_eq, same]

/-- The other runlists keep their buffers. -/
def SameElsewhere (list : Nat) (before after : Scheduler) : Prop :=
  ∀ other, other ≠ list → (after.runlists.find? other).map Runlist.buffers =
    (before.runlists.find? other).map Runlist.buffers

instance (list : Nat) : IsPreorder Scheduler (SameElsewhere list) where
  refl _ _ _ := rfl
  trans _ _ _ one two other apart := (two other apart).trans (one other apart)

/-- What leaves every buffer alone. -/
theorem elsewhere_of_rests {operation : Operation Scheduler α}
    (rests : Respects (Rests runlistId) operation) : Respects (SameElsewhere list) operation :=
  rests.mono fun _ _ rests other _ => rests.buffers other

/-- A runlist is replaced. -/
theorem elsewhere_putRunlist (list : Nat) (next : Runlist) :
    Respects (SameElsewhere list) (putRunlist list next) := by
  refine respects_modify fun scheduler other apart => ?_
  dsimp only
  rw [Table.find?_insert, if_neg apart]

/-- A list is handed over. -/
theorem elsewhere_submitList (list : Nat) (wait : Bool) :
    Respects (SameElsewhere list) (submitList list false wait) := by
  have writes : Respects (SameElsewhere list) (writeList list) := by
    refine (reads_runlist list).respects.bind fun runlist => respects_get.bind fun read => ?_
    refine (respects_lift _).bind fun entries => (respects_lift _).bind fun spare => ?_
    exact (elsewhere_putRunlist list _).bind fun _ => respects_pure _
  have swaps : ∀ count, Respects (SameElsewhere list) (swapBuffers list count) := fun count =>
    (reads_runlist list).respects.bind fun runlist => elsewhere_putRunlist list _
  have drives : ∀ operation : Operation Bus Unit,
      Respects (SameElsewhere list) (onBus operation) := by
    intro operation
    have any : Respects (fun _ _ : Bus => True) operation := fun _ => trivial
    exact respects_focus any fun _ _ _ _ _ => rfl
  rw [submitList_eq, if_neg (by decide)]
  refine writes.bind fun count => (reads_runlist list).respects.bind fun runlist => ?_
  refine (drives _).bind fun _ => ?_
  cases wait with
  | true =>
    have awaits : Respects (Rests list) (awaitPickup list) := rests_awaitPickup list
    exact (elsewhere_of_rests awaits).bind fun _ => swaps count
  | false => exact swaps count

/-- Take a channel off a runlist and hand the list over, up to the wait. The answer is whether a
list was handed over. -/
def withdraw (runlistId id : Nat) : Operation Scheduler Bool := do
  let changed ← setActive runlistId id false
  if changed then
    let _ ← handList runlistId
  return changed

/-- If a list is handed over to take a channel off its runlist, the hardware picks it up in time. -/
def WithdrawsInTime (scheduler : Scheduler) (runlistId id : Nat) : Prop :=
  ∀ handed, withdraw runlistId id scheduler = (.ok true, handed) →
    (waitRunlist runlistId handed).1 = .ok true

instance (scheduler : Scheduler) (runlistId id : Nat) :
    Decidable (scheduler.WithdrawsInTime runlistId id) :=
  match run : withdraw runlistId id scheduler with
  | (.ok true, handed) =>
      decidable_of_iff ((waitRunlist runlistId handed).1 = .ok true)
        ⟨fun picked other same => by
          rw [run, Prod.mk.injEq] at same
          rwa [← same.2], fun inTime => inTime handed run⟩
  | (.ok false, _) | (.error _, _) =>
      isTrue fun _ same => by
        rw [run] at same
        cases same

/-- An update that takes no channel out of the active set changes nothing. -/
theorem updateRunlist_of_inactive (sound : scheduler.Sound exact)
    (still : ∀ middle, setActive runlistId id false scheduler ≠ (.ok true, middle)) (wait : Bool) :
    (updateRunlist runlistId (some id) false wait scheduler).2 = scheduler ∧
      scheduler.activeOn runlistId id = false := by
  have outcome : (setActive runlistId id false).Yields scheduler _ _ := yields_setActive sound false
  have looks := reads_runlist runlistId scheduler
  have idle : ∀ result middle, setActive runlistId id false scheduler = (result, middle) →
      middle = scheduler ∧ scheduler.activeOn runlistId id = false ∧ result ≠ .ok true := by
    rintro (failure | changed) middle run
    · obtain ⟨same, -, off⟩ := outcome.of_error run
      exact ⟨same, off rfl, by simp⟩
    · cases changed with
      | true => exact absurd run (still middle)
      | false =>
        obtain ⟨-, same, off⟩ := outcome.of_ok run
        exact ⟨same, off, by simp⟩
  refine ⟨?_, (idle _ _ rfl).2.1⟩
  unfold updateRunlist
  rw [run_bind]
  rcases look : Scheduler.runlist runlistId scheduler with ⟨refused | runlist, looked⟩
  · exact looks.of_error look
  · obtain rfl : looked = scheduler := looks.of_ok look
    dsimp only
    rw [run_bind]
    rcases run : setActive runlistId id false looked with ⟨failure | changed, middle⟩
    · exact (idle _ _ run).1
    · obtain ⟨rfl, -, unchanged⟩ := idle _ _ run
      cases changed with
      | true => exact absurd rfl unchanged
      | false => rfl

/-- An update that takes a channel out of the active set and is picked up in time leaves its list in
the current buffer. -/
theorem exists_withdrawn (sound : scheduler.Sound exact)
    (changes : setActive runlistId id false scheduler = (.ok true, middle))
    (inTime : scheduler.WithdrawsInTime runlistId id) :
    middle.Sound exact ∧ SameBuffers scheduler middle ∧
      ∃ after, updateRunlist runlistId (some id) false true scheduler = (.ok (), after) ∧
        submitList runlistId false true middle = (.ok (), after) ∧
        snapshot runlistId after =
          (.ok ((middle.listing runlistId).map RunlistEntry.stored), after) := by
  have submits : Submits runlistId false scheduler (some id) middle := .changed changes
  obtain ⟨soundMiddle, buffers, ⟨runlist, found⟩, updates⟩ :=
    updateRunlist_of_submits sound submits true
  obtain ⟨handed, hands, gives⟩ := exists_handList soundMiddle found
  have gave : withdraw runlistId id scheduler = (.ok true, handed) := by
    unfold withdraw
    rw [run_bind_of_ok changes, if_pos rfl, run_bind_of_ok gives]
    rfl
  obtain ⟨after, taken, reads⟩ := exists_takenUp hands fun _ => inTime handed gave
  have submitted : submitList runlistId false true middle = (.ok (), after) := by
    rw [submitList_eq_handList, run_bind_of_ok gives]
    rwa [List.length_map] at taken
  exact ⟨soundMiddle, buffers, after, updates.trans submitted, submitted, reads⟩

/-- A channel that is taken off its runlist in time is on the list of the runlist only if it was
there and not active. The other lists stay. -/
theorem shows_updateRunlist_iff (sound : scheduler.Sound exact)
    (inTime : scheduler.WithdrawsInTime runlistId id) :
    (updateRunlist runlistId (some id) false true scheduler).2.Shows list id ↔
      scheduler.Shows list id ∧ (list = runlistId → scheduler.activeOn runlistId id = false) := by
  by_cases changes : ∃ middle, setActive runlistId id false scheduler = (.ok true, middle)
  · obtain ⟨middle, changes⟩ := changes
    have toggled : Toggled runlistId id false scheduler middle :=
      ((yields_setActive sound false).of_ok changes).2
    obtain ⟨soundMiddle, buffers, after, updates, submitted, reads⟩ :=
      exists_withdrawn sound changes inTime
    rw [updates]
    by_cases own : list = runlistId
    · subst own
      have was : scheduler.activeOn list id = true := toggled.was
      have off : middle.activeOn list id = false := by rw [toggled.active, if_pos ⟨rfl, rfl⟩]
      constructor
      · rintro ⟨entries, read, mem⟩
        rw [reads, Except.ok.injEq] at read
        rw [← read] at mem
        rw [active_of_mem_listing soundMiddle mem] at off
        cases off
      · rintro ⟨-, idle⟩
        rw [idle rfl] at was
        cases was
    · have kept := elsewhere_submitList runlistId true middle list own
      rw [submitted] at kept
      have same : after.Shows list id ↔ scheduler.Shows list id :=
        shows_iff_of_buffers (kept.trans (buffers list))
      rw [same]
      exact ⟨fun shows => ⟨shows, fun here => absurd here own⟩, And.left⟩
  · obtain ⟨same, off⟩ := updateRunlist_of_inactive sound (not_exists.mp changes) true
    rw [same]
    exact ⟨fun shows => ⟨shows, fun _ => off⟩, And.left⟩

/-- Nothing of a channel is left in its registers, its slot is as new, and the pool holds it. -/
structure Cleared (id : Nat) (scheduler : Scheduler) : Prop where
  disabled : scheduler.machine.bus.word (Device.controlOffset id) &&&
    Register.channelEnableBit = 0
  unbound : scheduler.machine.bus.word (Device.instanceOffset id) = 0
  reset : scheduler.channels[id]? = some {}
  free : scheduler.freeChannels.contains id = true

/-- Freeing the slot of a channel without references clears it. -/
theorem clears_freeSlot (inRange : id < 4096) (found : scheduler.channels[id]? = some channel)
    (unused : channel.references = 0) :
    (freeSlot id).Yields scheduler (fun _ after => after.Cleared id) fun _ _ => False := by
  unfold freeSlot onBus
  simp only [yields_bind, yields_focus]
  refine (Device.disables_channel inRange).mono (fun _ bus disabled => ?_) fun _ _ => False.elim
  refine (Device.unbinds_channel inRange).mono (fun _ bus ⟨unbound, same⟩ => ?_)
    fun _ _ => False.elim
  unfold changeChannel
  simp only [yields_modify]
  refine ⟨?_, unbound, ?_, ?_⟩
  · rw [← same] at disabled
    exact disabled
  · dsimp only
    rw [Array.getElem?_modify, if_pos rfl, found, Option.map_some]
    unfold Channel.reset
    rw [unused]
  · dsimp only
    rw [Table.contains_insert, if_pos rfl]

/-- Leaving the group and the slot of a channel without references clears the slot. -/
theorem clears_leaveSlot (intact : scheduler.Intact exact)
    (found : scheduler.channels[id]? = some channel) (unused : channel.references = 0)
    (off : ∀ list, scheduler.activeOn list id = false) :
    (leaveSlot id channel.group).Yields scheduler (fun _ after => after.Cleared id)
      fun _ _ => False := by
  have inRange : id < 4096 := by
    have few := (Config.fits_of_fault intact.sound.shaped.accepted).1
    have below := intact.sound.shaped.channel_lt found
    omega
  cases grouped : channel.group with
  | none => exact clears_freeSlot inRange found unused
  | some groupId =>
    change (removeMember id groupId >>= fun _ => freeSlot id).Yields scheduler _ _
    rw [yields_bind]
    refine (yields_removeMember intact found grouped fun _ => off).mono ?_ fun _ _ => False.elim
    rintro _ after ⟨-, -, holds, -⟩
    exact clears_freeSlot inRange holds unused

/-- A channel has been released. -/
structure Released (id : Nat) (before after : Scheduler) : Prop extends Cleared id after where
  /-- It is in no active set. -/
  inactive : ∀ runlistId, after.activeOn runlistId id = false
  /-- No group has it for a member. -/
  ungrouped : ∀ {groupId : Nat} {group : Group}, after.groups[groupId]? = some group →
    id ∉ group.members
  /-- A list that the hardware reads holds it just when the list held it before and it was not
  active there. -/
  shows : ∀ runlistId, after.Shows runlistId id ↔
    before.Shows runlistId id ∧ before.activeOn runlistId id = false

/-- A channel is in no active set and in no group once its slot is as new. -/
theorem Sound.of_reset (sound : scheduler.Sound exact)
    (found : scheduler.channels[id]? = some {}) :
    (∀ runlistId, scheduler.activeOn runlistId id = false) ∧
      ∀ {groupId : Nat} {group : Group}, scheduler.groups[groupId]? = some group →
        id ∉ group.members := by
  have seat := seat_of_found found
  refine ⟨fun runlistId => ?_, fun inTable isMember => ?_⟩
  · exact sound.consistent.not_active seat (by decide) (by decide)
  · obtain ⟨channel, holds, -, grouped⟩ := channel_of_member sound inTable isMember
    rw [found, Option.some.injEq] at holds
    rw [← holds] at grouped
    cases grouped

/-- What follows the update in a release clears the slot and leaves the lists alone. -/
theorem clears_afterUpdate (intact : scheduler.Intact exact)
    (found : scheduler.channels[id]? = some channel) (unused : channel.references = 0)
    (off : ∀ list, scheduler.activeOn list id = false) :
    (do
      runDeferredResets id channel.group
      leaveSlot id channel.group : Operation Scheduler Unit).Yields scheduler
      (fun _ after => after.Cleared id ∧
        ∀ list, after.Shows list id ↔ scheduler.Shows list id)
      fun _ _ => False := by
  have resets : Respects (Rests 0) (runDeferredResets id channel.group) :=
    rests_runDeferredResets id channel.group
  rw [yields_bind]
  refine ((yields_runDeferredResets intact.sound id channel.group).also resets).imp ?_
  rintro _ reset ⟨⟨soundReset, stops⟩, quiet⟩
  obtain ⟨last, holds, core⟩ := stops.toSteady.channel_found found
  have same : last.group = channel.group := group_eq_of_core core
  have references : last.references = 0 := (congrArg Channel.references core).trans unused
  have leaves : Respects (Rests 0) (leaveSlot id last.group) := rests_leaveSlot id last.group
  rw [← same]
  refine ((clears_leaveSlot (intact.stops soundReset stops) holds references fun list =>
    stops.off (off list)).also leaves).imp ?_
  rintro _ after ⟨cleared, still⟩
  exact ⟨cleared, fun list =>
    shows_iff_of_buffers ((still.buffers list).trans (quiet.buffers list))⟩

/-- Releasing a channel without references, with its list picked up in time. -/
theorem releases_channel (intact : scheduler.Intact exact) (trusted : exact → scheduler.Trusted)
    (found : scheduler.channels[id]? = some channel) (unused : channel.references = 0)
    (inTime : scheduler.WithdrawsInTime channel.runlist id) :
    (releaseChannel id).Yields scheduler (fun _ after => Released id scheduler after)
      fun _ _ => False := by
  have active_iff : ∀ list, (list = channel.runlist →
      scheduler.activeOn channel.runlist id = false) ↔ scheduler.activeOn list id = false := by
    intro list
    constructor
    · intro idle
      rw [Bool.eq_false_iff]
      intro on
      have here : channel.runlist = list :=
        intact.sound.consistent.runlist_eq (seat_of_found found) on
      rw [← here, idle here.symm] at on
      cases on
    · rintro idle rfl
      exact idle
  let shown (updated : Scheduler) : Prop := ∀ list, updated.Shows list id ↔
    scheduler.Shows list id ∧ scheduler.activeOn list id = false
  have updates : (updateRunlist channel.runlist (some id) false true).Yields scheduler
      (fun _ updated => shown updated) fun _ updated => shown updated := by
    refine yields_of_state fun list => ?_
    exact (shows_updateRunlist_iff intact.sound inTime).trans (and_congr_right' (active_iff list))
  have leaves : ∀ updated, Updated exact channel.runlist (some id) false true scheduler updated →
      shown updated → (do
        runDeferredResets id channel.group
        leaveSlot id channel.group : Operation Scheduler Unit).Yields updated
        (fun _ after => after.Cleared id ∧ shown after) fun _ _ => False := by
    intro updated update shows
    obtain ⟨changed, holds, core, off⟩ := update.off_everywhere found rfl
    have same : changed.group = channel.group := group_eq_of_core core
    rw [← same]
    refine (clears_afterUpdate (intact.updated trusted update) holds
      ((congrArg Channel.references core).trans unused) off).imp ?_
    exact fun _ after ⟨cleared, still⟩ => ⟨cleared, fun list => (still list).trans (shows list)⟩
  have clears : (releaseChannel id).Yields scheduler
      (fun _ after => after.Cleared id ∧ shown after) fun _ _ => False := by
    rw [releaseChannel_eq]
    unfold channelAt
    rw [yields_bind, yields_bind, yields_get, yields_entry found, yields_bind, yields_disregard]
    refine ((yields_updateRunlist intact.sound (some id) false true).and updates).mono ?_ ?_
    · exact fun _ updated ⟨update, shows⟩ => leaves updated update shows
    · rintro _ updated ⟨⟨⟨error, rfl⟩, update⟩, shows⟩
      exact leaves updated update shows
  refine (clears.and (keeps_releaseChannel intact trusted id)).mono ?_ fun _ _ => And.left
  rintro _ after ⟨⟨cleared, shows⟩, kept, -⟩
  obtain ⟨inactive, ungrouped⟩ := kept.sound.of_reset cleared.reset
  exact ⟨cleared, inactive, ungrouped, shows⟩

/-- If the drop of a reference waits for the hardware, it does not run out of time. -/
def DropsInTime (scheduler : Scheduler) (id : Nat) : Prop :=
  ∀ channel, scheduler.channels[id]? = some channel →
    WithdrawsInTime
      { scheduler with
        channels := scheduler.channels.modify id
          ({ · with references := channel.references - 1 }) }
      channel.runlist id

instance (scheduler : Scheduler) (id : Nat) : Decidable (scheduler.DropsInTime id) :=
  inferInstanceAs (Decidable (∀ channel ∈ scheduler.channels[id]?, WithdrawsInTime
    { scheduler with
      channels := scheduler.channels.modify id
        ({ · with references := channel.references - 1 }) }
    channel.runlist id))

/-- Giving the last reference back is a release, once the references are counted. -/
theorem yields_drop_of_last (found : scheduler.channels[id]? = some channel)
    (last : channel.references = 1) {good : Unit → Scheduler → Prop}
    {bad : Failure → Scheduler → Prop}
    (releases : ∀ counted : Scheduler, counted =
        { scheduler with
          channels := scheduler.channels.modify id
            ({ · with references := channel.references - 1 }) } →
      counted.channels[id]? = some { channel with references := channel.references - 1 } →
      (releaseChannel id).Yields counted good bad) :
    (drop id).Yields scheduler good bad := by
  have present : channel.references ≠ 0 := by rw [last]; decide
  unfold drop channelAt changeChannel
  rw [yields_bind, yields_bind, yields_get, yields_entry found, yields_bind, yields_modify]
  dsimp only
  rw [if_neg present, if_pos last]
  refine releases _ rfl ?_
  rw [Array.getElem?_modify, if_pos rfl, found, Option.map_some]

/-- Giving the last reference back releases the channel. -/
theorem releases_drop (intact : scheduler.Intact exact) (trusted : exact → scheduler.Trusted)
    (found : scheduler.channels[id]? = some channel) (last : channel.references = 1)
    (inTime : scheduler.DropsInTime id) :
    (drop id).Yields scheduler (fun _ after => Released id scheduler after) fun _ _ => False := by
  have same : ∀ held : Channel,
      ({ held with references := channel.references - 1 } : Channel).seat = held.seat :=
    fun _ => rfl
  have unused : channel.references - 1 = 0 := by rw [last]; rfl
  refine yields_drop_of_last found last ?_
  rintro counted rfl holds
  have releases := releases_channel (intact.changeChannel same)
    (fun exactly => (trusted exactly).changeChannel same) holds unused (inTime channel found)
  refine releases.imp fun _ after released => { released with shows := fun runlistId => ?_ }
  exact (released.shows runlistId).trans (and_congr_left' (shows_iff_of_buffers rfl))

end Scheduler

namespace Session

open Scheduler

variable {config : Config} {machine : Machine} {session : Session}

/-- Dropping a handle drops a reference to its channel. -/
theorem exists_perform_drop {handle id : Nat} (held : session.handles.find? handle = some id)
    {good : Scheduler → Prop}
    (drops : (drop id).Yields session.scheduler (fun _ after => good after) fun _ _ => False) :
    ∃ after, perform (.drop handle) session = (.ok .done, after) ∧ good after.scheduler := by
  have performs : (perform (.drop handle)).Yields session
      (fun reply after => reply = .done ∧ good after.scheduler) fun _ _ => False := by
    unfold perform dropHandle withHandle call
    rw [yields_bind, yields_get, held]
    dsimp only
    rw [yields_bind, yields_modify, yields_bind, yields_focus]
    exact drops.imp fun _ after holds => ⟨rfl, holds⟩
  obtain ⟨_, after, run, rfl, holds⟩ := performs.exists_ok
  exact ⟨after, run, holds⟩

/-- In every reached session, dropping the last reference to a channel without running out of time
takes the channel off the hardware and frees its slot, and no list is left with it unless the list
held it already when it was not active there. -/
theorem reached_releases (reached : Reached config machine (fun _ => True) session)
    {handle id : Nat} {channel : Channel} (held : session.handles.find? handle = some id)
    (found : session.scheduler.channels[id]? = some channel) (last : channel.references = 1)
    (inTime : session.scheduler.DropsInTime id) :
    ∃ after, perform (.drop handle) session = (.ok .done, after) ∧
      Released id session.scheduler after.scheduler := by
  have intact := (reached.intact False fun _ _ _ => False.elim).1
  exact exists_perform_drop held (releases_drop intact False.elim found last inTime)

/-- A member of a group that is active beside another channel is released: its list is picked up,
and the hardware reads the other channel alone. -/
theorem releases_member : ∃ session after,
    Reached oneEngine poweredUp (fun _ => True) session ∧
      (snapshot 0 session.scheduler).1 = .ok [.channel 1, .group 0 1 {}, .channel 0] ∧
      perform (.drop 0) session = (.ok .done, after) ∧
      Released 0 session.scheduler after.scheduler ∧ ¬ after.scheduler.Shows 0 0 := by
  let requests : List Request :=
    [.bind 0 { runlist := 0 }, .bind 1 { runlist := 0 }, .createGroup 0, .join 0 0,
      .update 0 (some 0) true true, .update 0 (some 1) true true]
  have outcome : (Scheduler.create oneEngine poweredUp).toOption.map (fun scheduler => decide
      ((performAll { scheduler } requests).handles.find? 0 = some 0 ∧
        (performAll { scheduler } requests).scheduler.channels[0]?.map (·.references) = some 1 ∧
        (snapshot 0 (performAll { scheduler } requests).scheduler).1 =
          .ok [.channel 1, .group 0 1 {}, .channel 0] ∧
        (performAll { scheduler } requests).scheduler.activeOn 0 0 = true ∧
        (performAll { scheduler } requests).scheduler.DropsInTime 0)) = some true := by
    decide +kernel
  obtain ⟨scheduler, created, holds⟩ := exists_created outcome
  obtain ⟨held, references, lists, active, inTime⟩ := decide_eq_true_iff.mp holds
  obtain ⟨channel, found, last⟩ := Option.map_eq_some_iff.mp references
  have reached : Reached oneEngine poweredUp (fun _ => True) (performAll { scheduler } requests) :=
    (Reached.created created).performAll fun _ _ => trivial
  obtain ⟨after, run, released⟩ :=
    reached_releases reached held found last inTime
  refine ⟨_, after, reached, lists, run, released, fun shows => ?_⟩
  rw [((released.shows 0).mp shows).2] at active
  cases active

/-- The engine hangs while it runs one channel and another becomes active: the update leaves the
first one in the list, so when it is released its list is not written again, and the hardware reads
a channel whose slot is free. -/
theorem listed_after_release : ∃ session after,
    Reached oneEngine poweredUp Scheduler.Honest session ∧
      session.handles.find? 0 = some 0 ∧
      session.scheduler.channels[0]?.map (·.references) = some 1 ∧
      session.scheduler.DropsInTime 0 ∧ perform (.drop 0) session = (.ok .done, after) ∧
      (snapshot 0 after.scheduler).1 = .ok [.channel 0, .channel 1] ∧
      after.scheduler.channels[0]?.map (·.state) = some .free := by
  let requests : List Request :=
    [.bind 0 { runlist := 0 }, .bind 1 { runlist := 0 }, .update 0 (some 0) true true,
      .inject (.engineStatus 0 (.running (.channel 0))), .inject (.hangRunlist 0 .untilReset),
      .update 0 (some 1) true true]
  have outcome : (Scheduler.create oneEngine poweredUp).toOption.map (fun scheduler => decide
      ((∀ done ∈ requests.inits, (performAll { scheduler } done).scheduler.Honest) ∧
        (performAll { scheduler } requests).handles.find? 0 = some 0 ∧
        (performAll { scheduler } requests).scheduler.channels[0]?.map (·.references) = some 1 ∧
        (performAll { scheduler } requests).scheduler.DropsInTime 0 ∧
        (perform (.drop 0) (performAll { scheduler } requests)).1.toOption = some .done ∧
        (snapshot 0 (perform (.drop 0) (performAll { scheduler } requests)).2.scheduler).1 =
          .ok [.channel 0, .channel 1] ∧
        (perform (.drop 0) (performAll { scheduler } requests)).2.scheduler.channels[0]?.map
          (·.state) = some .free)) = some true := by decide +kernel
  obtain ⟨scheduler, created, holds⟩ := exists_created outcome
  obtain ⟨honest, held, references, inTime, drops, lists, free⟩ := decide_eq_true_iff.mp holds
  have reached := (Reached.created created).performAll honest
  exact ⟨_, _, reached, held, references, inTime, run_of_toOption drops, lists, free⟩

end Session

end GpuSched
