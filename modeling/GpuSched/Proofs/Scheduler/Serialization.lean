import GpuSched.Proofs.Register.Submissions
import GpuSched.Proofs.Scheduler.Sessions

/-!
# Lists that the hardware is handed

An update that submits a list writes what is active into the spare buffer, hands its address and its
length to the hardware, and makes the buffer the current one. `Lists` says what the entries in the
buffer must be, `Handed` what becomes of them, and every update of a reached scheduler meets both:
the active channels of the runlist are listed once each, and nothing else is.
-/
namespace GpuSched

open Operation

/-- Storing an entry keeps the number of a channel. -/
theorem RunlistEntry.channelId?_stored (entry : RunlistEntry) :
    entry.stored.channelId? = entry.channelId? := by
  cases entry <;> rfl

namespace Scheduler

variable {exact : Prop} {scheduler middle handed after : Scheduler} {runlistId : Nat}
  {runlist : Runlist} {entries : List RunlistEntry}

/-- The entries are the list of what is active on a runlist, as its words hold them. -/
structure Lists (scheduler : Scheduler) (runlistId : Nat) (entries : List RunlistEntry) :
    Prop where
  /-- The active channels without a group by ascending number, then each active group by ascending
  number: a header, followed at once by its active members in the order in which they joined. -/
  order : entries = (scheduler.listing runlistId).map RunlistEntry.stored
  /-- No channel occurs twice. -/
  once : (entries.filterMap RunlistEntry.channelId?).Nodup
  /-- The channels that occur are those of the active set. -/
  every : ∀ id : Nat, id ∈ entries.filterMap RunlistEntry.channelId? ↔
    scheduler.activeOn runlistId id = true
  /-- A header belongs to a group of the runlist. It counts the active members, one at least, and
  holds the timeslice but for the high bits of the scale. -/
  headers : ∀ (id len : UInt32) (timeslice : Timeslice), .group id len timeslice ∈ entries →
    ∃ group : Group, scheduler.groups[id.toNat]? = some group ∧ group.runlist = runlistId ∧
      len.toNat = group.members.countP (scheduler.activeOn runlistId) ∧ 1 ≤ len.toNat ∧
      timeslice = { group.timeslice with scale := group.timeslice.scale % 16 }

/-- A group that is listed is there, on the runlist, with active members that its header counts. -/
theorem exists_listed_group (sound : scheduler.Sound True) {groupId : Nat}
    (listed : groupId ∈ scheduler.activeGroupIds runlistId) :
    ∃ group : Group, scheduler.groups[groupId]? = some group ∧ group.runlist = runlistId ∧
      (scheduler.activeMembers runlistId groupId).length =
        group.members.countP (scheduler.activeOn runlistId) ∧
      1 ≤ (scheduler.activeMembers runlistId groupId).length ∧
      scheduler.groupTimeslice groupId = group.timeslice := by
  have counted := sound.counted trivial
  have isActive : scheduler.groupActiveOn runlistId groupId = true := List.of_mem_filter listed
  obtain ⟨roster, holds, here, positive⟩ := counted.bit.mp isActive
  obtain ⟨group, found, rfl⟩ := Option.map_eq_some_iff.mp holds
  have counter : group.active.toNat = group.members.countP (scheduler.activeOn runlistId) := by
    have own := counted.counter holds
    rw [here] at own
    exact own
  have members : (scheduler.activeMembers runlistId groupId).length =
      group.members.countP (scheduler.activeOn runlistId) := by
    unfold activeMembers targetChannels
    dsimp only
    rw [found, ← List.countP_eq_length_filter]
    rfl
  refine ⟨group, found, here, members, ?_, ?_⟩
  · rw [members, ← counter]
    exact positive
  · unfold groupTimeslice
    rw [found]

/-- A header in the list is the one of a listed group. -/
theorem header_of_mem_listing {id len : UInt32} {timeslice : Timeslice}
    (mem : .group id len timeslice ∈ scheduler.listing runlistId) :
    ∃ groupId ∈ scheduler.activeGroupIds runlistId, id = UInt32.ofNat groupId ∧
      len = UInt32.ofNat (scheduler.activeMembers runlistId groupId).length ∧
      timeslice = scheduler.groupTimeslice groupId := by
  have noHeader : ∀ ids : List Nat, .group id len timeslice ∉ ids.map channelEntry := by
    intro ids mem
    obtain ⟨_, _, impossible⟩ := List.mem_map.mp mem
    cases impossible
  rcases List.mem_append.mp mem with lone | grouped
  · exact absurd lone (noHeader _)
  · obtain ⟨groupId, isActive, isEntry⟩ := List.mem_flatMap.mp grouped
    rcases List.mem_cons.mp isEntry with header | isMember
    · cases header
      exact ⟨groupId, isActive, rfl, rfl, rfl⟩
    · exact absurd isMember (noHeader _)

/-- As its words hold it, the list of what is active names the listed channels in their order. -/
theorem filterMap_stored_listing (sound : scheduler.Sound exact) :
    ((scheduler.listing runlistId).map RunlistEntry.stored).filterMap RunlistEntry.channelId? =
      scheduler.listedIds runlistId := by
  rw [List.filterMap_map, ← filterMap_listing sound]
  exact List.filterMap_congr fun entry _ => entry.channelId?_stored

/-- It names no channel that is not active. -/
theorem active_of_mem_listing {id : Nat} (sound : scheduler.Sound exact)
    (mem : id ∈ ((scheduler.listing runlistId).map RunlistEntry.stored).filterMap
      RunlistEntry.channelId?) : scheduler.activeOn runlistId id = true := by
  rw [filterMap_stored_listing sound] at mem
  exact active_of_mem_listedIds mem

/-- Where groups are counted, the list of what is active is what it should be. -/
theorem lists_listing (sound : scheduler.Sound True) :
    scheduler.Lists runlistId ((scheduler.listing runlistId).map RunlistEntry.stored) := by
  refine ⟨rfl, ?_, fun id => ?_, fun id len timeslice mem => ?_⟩
  · rw [filterMap_stored_listing sound]
    exact nodup_listedIds sound
  · rw [filterMap_stored_listing sound]
    exact mem_listedIds sound
  · obtain ⟨entry, isEntry, stores⟩ := List.mem_map.mp mem
    cases entry with
    | channel id => cases stores
    | group id len held =>
      cases stores
      obtain ⟨groupId, isActive, rfl, rfl, rfl⟩ := header_of_mem_listing isEntry
      obtain ⟨group, found, here, members, positive, slice⟩ := exists_listed_group sound isActive
      obtain ⟨channels, groups, _⟩ := Config.fits_of_fault sound.shaped.accepted
      have there := (Array.getElem?_eq_some_iff.mp found).1
      rw [sound.shaped.groups] at there
      have few : (scheduler.activeMembers runlistId groupId).length ≤ 4096 := by
        rw [members]
        refine Nat.le_trans List.countP_le_length ?_
        exact sound.consistent.length_le (roster_of_found found)
      have number : (UInt32.ofNat groupId).toNat = groupId :=
        UInt32.toNat_ofNat_of_lt' (by change groupId < 2 ^ 32; omega)
      have count : (UInt32.ofNat (scheduler.activeMembers runlistId groupId).length).toNat =
          (scheduler.activeMembers runlistId groupId).length :=
        UInt32.toNat_ofNat_of_lt'
          (by change (scheduler.activeMembers runlistId groupId).length < 2 ^ 32; omega)
      rw [number, count, slice]
      exact ⟨group, found, here, members, positive, rfl⟩

/-- The hardware has been handed a list that was written into the spare buffer of a runlist. -/
structure Handed (runlistId : Nat) (entries : List RunlistEntry) (before handed : Scheduler) :
    Prop where
  /-- The entries are in the spare buffer, and nothing else of a runlist has changed. The hardware
  has logged a submission of their number, and unless there are none, of the address of the buffer
  without its twelve low bits. -/
  written : ∃ (runlist : Runlist) (spare : DmaBuffer) (base : Nat),
    before.runlists.find? runlistId = some runlist ∧
    handed.runlists = before.runlists.insert runlistId { runlist with spare } ∧
    spare.physical = runlist.spare.physical ∧ spare.size = runlist.spare.size ∧
    readEntries spare entries.length = .ok entries ∧
    handed.machine.bus.hardware.submissions =
      ⟨runlistId, base, entries.length⟩ :: before.machine.bus.hardware.submissions ∧
    (entries ≠ [] → base =
      (runlist.spare.physical - runlist.spare.physical % 4096) % Checked.limit64)
  /-- Beside the runlist only the registers have changed. -/
  others : handed = { before with
    runlists := handed.runlists
    machine := { before.machine with bus := handed.machine.bus } }

/-- What is left of an update once the hardware has been handed the list. -/
def takeUp (runlistId count : Nat) (wait : Bool) : Operation Scheduler Unit := do
  if wait then
    awaitPickup runlistId
  swapBuffers runlistId count

/-- A runlist that is there is answered, and nothing changes. -/
theorem run_runlist (found : scheduler.runlists.find? runlistId = some runlist) :
    Scheduler.runlist runlistId scheduler = (.ok runlist, scheduler) := by
  have state : (get : Operation Scheduler Scheduler) scheduler = (.ok scheduler, scheduler) := rfl
  unfold Scheduler.runlist
  rw [run_bind_of_ok state, found]
  rfl

/-- Write the list of what is active and hand it over. The answer is its length. -/
def handList (runlistId : Nat) : Operation Scheduler Nat := do
  let count ← writeList runlistId
  onBus (Device.submitRunlist runlistId (← Scheduler.runlist runlistId).spare.physical count)
  return count

/-- An update goes on from the list that it has handed over. -/
theorem submitList_eq_handList (runlistId : Nat) (wait : Bool) :
    submitList runlistId false wait =
      handList runlistId >>= fun count => takeUp runlistId count wait := by
  unfold handList
  simp only [bind_assoc, pure_bind]
  rfl

/-- The list of a runlist that is there is handed over. -/
theorem exists_handList (sound : scheduler.Sound exact)
    (found : scheduler.runlists.find? runlistId = some runlist) :
    ∃ handed,
      Handed runlistId ((scheduler.listing runlistId).map RunlistEntry.stored) scheduler handed ∧
      handList runlistId scheduler = (.ok (scheduler.listing runlistId).length, handed) := by
  have inRange : runlistId < 16 := sound.shaped.inRange found
  have short : (scheduler.listing runlistId).length < 0x10000 := by
    have most : (scheduler.listing runlistId).length ≤ _ := length_listing_le sound
    obtain ⟨channels, groups, _⟩ := Config.fits_of_fault sound.shaped.accepted
    omega
  obtain ⟨count, written, writes, rfl, spare, size, physical, reads, rfl⟩ :=
    (yields_writeList sound found).exists_ok
  let filled : Scheduler :=
    { scheduler with runlists := scheduler.runlists.insert runlistId { runlist with spare } }
  have there : filled.runlists.find? runlistId = some { runlist with spare } := by
    simp [filled, Table.find?_insert]
  have submitted : Yields (Device.submitRunlist runlistId spare.physical
      (scheduler.listing runlistId).length) filled.machine.bus _ _ :=
    Device.yields_submitRunlist inRange _ _
  obtain ⟨_, bus, submits, base, logged, address⟩ := submitted.exists_ok
  let handed : Scheduler := { filled with machine := { filled.machine with bus } }
  have hands : onBus (Device.submitRunlist runlistId spare.physical
      (scheduler.listing runlistId).length) filled = (.ok (), handed) := by
    unfold onBus focus
    simp only [ExceptT.mk, submits]
    rfl
  refine ⟨handed, ⟨⟨runlist, spare, base, found, rfl, physical, size, ?_, ?_, ?_⟩, rfl⟩, ?_⟩
  · rw [List.length_map]
    exact reads
  · rw [List.length_map, ← Nat.mod_eq_of_lt short]
    exact logged
  · intro filled
    rw [← physical]
    exact address fun empty => filled (by rw [List.length_eq_zero_iff.mp empty]; rfl)
  · unfold handList
    rw [run_bind_of_ok writes, run_bind_of_ok (run_runlist there), run_bind_of_ok hands]
    rfl

/-- The list of a runlist that is there is handed over, and the update goes on from there. -/
theorem exists_handed (sound : scheduler.Sound exact)
    (found : scheduler.runlists.find? runlistId = some runlist) (wait : Bool) :
    ∃ handed,
      Handed runlistId ((scheduler.listing runlistId).map RunlistEntry.stored) scheduler handed ∧
      submitList runlistId false wait scheduler =
        takeUp runlistId (scheduler.listing runlistId).length wait handed := by
  obtain ⟨handed, hands, run⟩ := exists_handList sound found
  refine ⟨handed, hands, ?_⟩
  rw [submitList_eq_handList, run_bind_of_ok run]

/-- The hardware keeps the runlists as they are. -/
theorem yields_onBus_runlists {α : Type} (operation : Operation Bus α) (scheduler : Scheduler) :
    (onBus operation).Yields scheduler (fun _ after => after.runlists = scheduler.runlists)
      fun _ after => after.runlists = scheduler.runlists := by
  unfold onBus
  rw [yields_focus]
  exact yields_of_forall (fun _ _ => rfl) fun _ _ => rfl

/-- Waiting until a list is picked up keeps the runlists as they are. -/
theorem yields_waitRunlist_runlists (runlistId : Nat) (scheduler : Scheduler) :
    (waitRunlist runlistId).Yields scheduler
      (fun _ after => after.runlists = scheduler.runlists)
      fun _ after => after.runlists = scheduler.runlists := by
  unfold waitRunlist waitFor
  simp only [yields_bind, yields_get]
  split
  · exact rfl
  · exact yields_onBus_runlists _ _

/-- A list that was written into the spare buffer is read back once the buffers have changed
places. -/
theorem exists_swapped (found : scheduler.runlists.find? runlistId = some runlist)
    (reads : readEntries runlist.spare entries.length = .ok entries) :
    ∃ after, swapBuffers runlistId entries.length scheduler = (.ok (), after) ∧
      snapshot runlistId after = (.ok entries, after) := by
  let next : Runlist :=
    { runlist with current := runlist.spare, spare := runlist.current, count := entries.length }
  let after : Scheduler :=
    { scheduler with runlists := scheduler.runlists.insert runlistId next }
  have current : after.runlists.find? runlistId = some next := by
    rw [Table.find?_insert, if_pos rfl]
  refine ⟨after, ?_, ?_⟩
  · unfold swapBuffers
    rw [run_bind_of_ok (run_runlist found)]
    rfl
  · unfold snapshot
    rw [run_bind_of_ok (run_runlist current)]
    change (liftM (readEntries runlist.spare entries.length) : Operation Scheduler _) after = _
    rw [reads]
    rfl

/-- A list that is picked up in time is in the current buffer afterwards. -/
theorem exists_takenUp {before : Scheduler} (hands : Handed runlistId entries before handed)
    {wait : Bool} (inTime : wait = true → (waitRunlist runlistId handed).1 = .ok true) :
    ∃ after, takeUp runlistId entries.length wait handed = (.ok (), after) ∧
      snapshot runlistId after = (.ok entries, after) := by
  obtain ⟨runlist, spare, base, found, written, _, _, reads, _⟩ := hands.written
  have swaps : ∀ ready : Scheduler, ready.runlists = handed.runlists →
      ∃ after, swapBuffers runlistId entries.length ready = (.ok (), after) ∧
        snapshot runlistId after = (.ok entries, after) := by
    intro ready same
    have there : ready.runlists.find? runlistId = some { runlist with spare } := by
      rw [same, written, Table.find?_insert, if_pos rfl]
    exact exists_swapped there reads
  cases wait with
  | false => exact swaps handed rfl
  | true =>
    have same := yields_waitRunlist_runlists runlistId handed
    rcases run : waitRunlist runlistId handed with ⟨answer, waited⟩
    have yes : answer = .ok true := by
      have picked := inTime rfl
      rw [run] at picked
      exact picked
    subst yes
    have picks : awaitPickup runlistId handed = (.ok (), waited) := by
      unfold awaitPickup
      rw [run_bind_of_ok run]
      rfl
    obtain ⟨after, swapped, reads⟩ := swaps waited (same.of_ok run)
    refine ⟨after, ?_, reads⟩
    change (awaitPickup runlistId >>= fun _ => swapBuffers runlistId entries.length) handed = _
    rw [run_bind_of_ok picks]
    exact swapped

/-- The updates that submit a list, with the scheduler whose list it is: the one that the update
starts from, or where a channel is named, the one in which its bit has changed. -/
inductive Submits (runlistId : Nat) (add : Bool) (scheduler : Scheduler) :
    Option Nat → Scheduler → Prop where
  /-- All that is active is submitted again. -/
  | again (listed : scheduler.runlists.contains runlistId = true) (adds : add = true) :
      Submits runlistId add scheduler none scheduler
  /-- A channel enters the active set or leaves it. -/
  | changed {id : Nat} {middle : Scheduler}
      (changes : setActive runlistId id add scheduler = (.ok true, middle)) :
      Submits runlistId add scheduler (some id) middle

/-- An update that submits a list hands over what is active then, in the buffers that were there. -/
theorem updateRunlist_of_submits (sound : scheduler.Sound exact) {add : Bool} {id : Option Nat}
    (submits : Submits runlistId add scheduler id middle) (wait : Bool) :
    middle.Sound exact ∧ SameBuffers scheduler middle ∧
      (∃ runlist, middle.runlists.find? runlistId = some runlist) ∧
      updateRunlist runlistId id add wait scheduler = submitList runlistId false wait middle := by
  cases submits with
  | again listed adds =>
    obtain ⟨runlist, found⟩ := exists_runlist listed
    subst adds
    refine ⟨sound, fun _ => rfl, ⟨runlist, found⟩, ?_⟩
    unfold updateRunlist
    rw [run_bind_of_ok (run_runlist found)]
    rfl
  | @changed id middle changes =>
    obtain ⟨soundMiddle, outcome⟩ := (yields_setActive sound add).of_ok changes
    have toggled : Toggled runlistId id add scheduler middle := outcome
    obtain ⟨channel, held, live, here, _⟩ := toggled.own
    have listed := sound.consistent.listed (seat_of_found held) live
    change scheduler.runlists.contains channel.runlist = true at listed
    rw [here] at listed
    obtain ⟨runlist, found⟩ := exists_runlist listed
    rw [← toggled.toSteady.listed] at listed
    refine ⟨soundMiddle, toggled.buffers, exists_runlist listed, ?_⟩
    unfold updateRunlist
    rw [run_bind_of_ok (run_runlist found)]
    dsimp only
    rw [run_bind_of_ok changes]
    rfl

end Scheduler

namespace Session

open Scheduler

variable {config : Config} {machine : Machine} {session : Session}

/-- Whenever an update of a reached scheduler submits a list, the hardware is handed exactly what is
active, and the snapshot reads it back if the hardware picks it up in time. -/
theorem reached_serializes (distinct : (config.engines.map (·.faultId)).Nodup)
    (reached : Reached config machine Scheduler.Honest session) {runlistId : Nat}
    {id : Option Nat} {add : Bool} {middle : Scheduler}
    (submits : Submits runlistId add session.scheduler id middle) (wait : Bool) :
    ∃ entries handed, SameBuffers session.scheduler middle ∧
      middle.Lists runlistId entries ∧ Handed runlistId entries middle handed ∧
      updateRunlist runlistId id add wait session.scheduler =
        takeUp runlistId entries.length wait handed ∧
      ((wait = true → (waitRunlist runlistId handed).1 = .ok true) →
        ∃ after, updateRunlist runlistId id add wait session.scheduler = (.ok (), after) ∧
          snapshot runlistId after = (.ok entries, after)) := by
  have intact := reached.intact True fun _ same honest _ =>
    trusted_of_honest distinct same honest
  obtain ⟨sound, buffers, ⟨runlist, found⟩, updates⟩ :=
    updateRunlist_of_submits intact.1.sound submits wait
  obtain ⟨handed, hands, goesOn⟩ := exists_handed sound found wait
  let entries := (middle.listing runlistId).map RunlistEntry.stored
  have count : entries.length = (middle.listing runlistId).length := List.length_map _
  rw [← count, ← updates] at goesOn
  refine ⟨entries, handed, buffers, lists_listing sound, hands, goesOn, fun inTime => ?_⟩
  rw [goesOn]
  exact exists_takenUp hands inTime

/-- A member of a group becomes active beside a channel on its own: the list holds the channel, then
the header of the group and its member. -/
theorem serializes_group_after_channel : ∃ session middle after,
    Reached oneEngine poweredUp Scheduler.Honest session ∧
      Submits 0 true session.scheduler (some 1) middle ∧
      updateRunlist 0 (some 1) true false session.scheduler = (.ok (), after) ∧
      snapshot 0 after = (.ok [.channel 0, .group 0 1 {}, .channel 1], after) := by
  let requests : List Request :=
    [.bind 0 { runlist := 0 }, .bind 1 { runlist := 0 }, .createGroup 0, .join 1 0,
      .update 0 (some 0) true true]
  let list : List RunlistEntry := [.channel 0, .group 0 1 {}, .channel 1]
  have outcome : (Scheduler.create oneEngine poweredUp).toOption.map (fun scheduler => decide
      ((∀ done ∈ requests.inits, (performAll { scheduler } done).scheduler.Honest) ∧
        (setActive 0 1 true (performAll { scheduler } requests).scheduler).1.toOption = some true ∧
        (setActive 0 1 true (performAll { scheduler } requests).scheduler).2.listing 0 = list)) =
          some true := by decide +kernel
  obtain ⟨scheduler, created, holds⟩ := exists_created outcome
  obtain ⟨honest, changes, listing⟩ := decide_eq_true_iff.mp holds
  have reached := (Reached.created created).performAll honest
  rcases run : setActive 0 1 true (performAll { scheduler } requests).scheduler with
    ⟨failure | changed, middle⟩ <;> rw [run] at changes listing
  · cases changes
  · cases changes
    have submits : Submits 0 true (performAll { scheduler } requests).scheduler (some 1) middle :=
      .changed run
    obtain ⟨entries, handed, _, lists, _, _, reads⟩ :=
      reached_serializes (by decide) reached submits false
    obtain ⟨after, updates, snapshots⟩ := reads fun waits => absurd waits (by decide)
    have same : entries = list := by
      rw [lists.order, listing]
      rfl
    rw [same] at snapshots
    exact ⟨_, middle, after, reached, submits, updates, snapshots⟩

end Session

end GpuSched
