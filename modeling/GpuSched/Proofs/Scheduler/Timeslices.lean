import GpuSched.Proofs.Scheduler.Scripts
import GpuSched.Proofs.Scheduler.Snapshots

/-!
# Timeslices on their way to the hardware

A group is given a timeslice when it is set up and whenever a client sets one. Nothing else touches
it until the group is given up, so the next list that holds members of the group has a header with
that timeslice: its timeout, and its scale as far as the four bits go that a header has for it. No
request checks the scale, so one of sixteen or more is accepted and another one arrives.
-/
namespace GpuSched

open Operation

/-- Whether an entry is the header of a group. -/
def RunlistEntry.isHeaderOf (groupId : Nat) : RunlistEntry → Bool
  | channel _ => false
  | group id _ _ => id.toNat == groupId

/-- Storing an entry leaves it a header of the same group. -/
theorem RunlistEntry.isHeaderOf_stored (groupId : Nat) (entry : RunlistEntry) :
    entry.stored.isHeaderOf groupId = entry.isHeaderOf groupId := by
  cases entry <;> rfl

namespace Scheduler

variable {exact : Prop} {scheduler before middle after : Scheduler} {runlistId groupId id : Nat}
  {slice : Timeslice} {α : Type}

/-- What drives resets and disable bits leaves the shares alone. -/
theorem Drives.sameShares (drives : Drives before after) : SameShares before after :=
  sameShares_of_groups drives.groups

/-- A channel is changed. -/
theorem sameShares_changeChannel (id : Nat) (change : Channel → Channel) :
    Respects SameShares (changeChannel id change) :=
  fun _ => sameShares_of_groups rfl

/-- A runlist is updated. -/
theorem sameShares_updateRunlist (list : Nat) (id : Option Nat) (add wait : Bool) :
    Respects SameShares (updateRunlist list id add wait) := by
  have steps : Steps list SameShares :=
    { idles := fun _ _ idles => idles.toDrives.sameShares
      shifts := fun _ _ shifts => shifts.shares
      faults := fun forced => (drives_handleFaults (some forced)).mono fun _ _ => Drives.sameShares
      refills := fun _ _ refills => sameShares_of_groups refills.groups
      submits := fun _ _ _ _ => sameShares_of_groups rfl }
  exact steps.updateRunlist id add wait

/-- Recovery leaves the shares alone. -/
theorem recovers_sameShares : Script.Recovers SameShares where
  idles := fun _ _ idles => idles.toDrives.sameShares
  faults := fun forced => (drives_handleFaults forced).mono fun _ _ => Drives.sameShares
  removes := fun list id => sameShares_updateRunlist list (some id) false false

/-- Binding and grouping leave the shares alone. -/
theorem enrolls_sameShares : Enrolls SameShares where
  idles := fun _ _ idles => idles.toDrives.sameShares
  slots := fun _ _ => sameShares_of_groups rfl
  members := fun groupId members => sameShares_changeGroup groupId
    (fun group => { group with members := members group }) fun _ => rfl
  channels := fun id change _ => sameShares_changeChannel id change

/-- A channel leaves its group, and first its runlist. -/
theorem sameShares_leaveGroup (id : Nat) : Respects SameShares (leaveGroup id) := by
  refine (reads_channelAt id).respects.bind fun channel => ?_
  cases channel.group with
  | none => exact respects_refuse _
  | some groupId =>
    dsimp only
    split
    · exact (sameShares_updateRunlist _ _ _ _).bind fun _ =>
        enrolls_sameShares.removeMember id groupId
    · exact enrolls_sameShares.removeMember id groupId

/-- A channel is released. -/
theorem sameShares_releaseChannel (id : Nat) : Respects SameShares (releaseChannel id) := by
  rw [releaseChannel_eq]
  refine (reads_channelAt id).respects.bind fun channel => ?_
  refine (sameShares_updateRunlist _ _ _ _).disregard.bind fun _ => ?_
  refine Respects.bind ?_ fun _ => enrolls_sameShares.leaveSlot id channel.group
  exact (drives_runDeferredResets id channel.group).mono fun _ _ => Drives.sameShares

/-- A reference is given back, and the last one releases the channel. -/
theorem sameShares_drop (id : Nat) : Respects SameShares (Scheduler.drop id) := by
  refine (reads_channelAt id).respects.bind fun channel => ?_
  refine (sameShares_changeChannel id _).bind fun _ => ?_
  dsimp only
  split
  · exact respects_abort_bind _ _
  · split
    · exact sameShares_releaseChannel id
    · exact respects_pure _

/-- A fault is acknowledged. -/
theorem sameShares_acknowledgeFault (id : Nat) : Respects SameShares (acknowledgeFault id) := by
  refine (reads_channelAt id).respects.bind fun channel => ?_
  dsimp only
  split
  · exact respects_refuse_bind _ _
  · exact (sameShares_updateRunlist _ _ _ _).bind fun _ => sameShares_changeChannel id _

/-- A group is in use and has a timeslice. -/
def Allots (scheduler : Scheduler) (groupId : Nat) (slice : Timeslice) : Prop :=
  scheduler.groups[groupId]?.map Group.share = some (true, slice)

/-- What leaves the shares alone leaves a group its timeslice. -/
theorem Allots.same (allots : before.Allots groupId slice) (same : SameShares before after) :
    after.Allots groupId slice :=
  (same groupId).trans allots

/-- Another group is changed. -/
theorem Allots.of_changeGroup (allots : scheduler.Allots groupId slice) (apart : id ≠ groupId)
    (change : Group → Group) : (changeGroup id change scheduler).2.Allots groupId slice := by
  change (scheduler.groups.modify id change)[groupId]?.map Group.share = _
  rw [Array.getElem?_modify, if_neg apart]
  exact allots

/-- A group that has a timeslice is there. -/
theorem Allots.exists_group (allots : scheduler.Allots groupId slice) :
    ∃ group : Group, scheduler.groups[groupId]? = some group ∧ group.inUse = true ∧
      group.timeslice = slice := by
  obtain ⟨group, found, share⟩ := Option.map_eq_some_iff.mp allots
  exact ⟨group, found, congrArg Prod.fst share, congrArg Prod.snd share⟩

/-- A group that is set up has the timeslice of the configuration, and the groups in use keep
theirs. -/
theorem yields_createGroup_allots (sound : scheduler.Sound exact) (list : Nat) :
    (createGroup list).Yields scheduler
      (fun id after => after.Allots id scheduler.config.timeslice ∧
        ∀ groupId slice, scheduler.Allots groupId slice → after.Allots groupId slice)
      fun _ after => SameShares scheduler after := by
  unfold createGroup
  rw [yields_bind]
  refine (reads_runlist list scheduler).mono ?_ fun _ _ same => sameShares_of_groups (by rw [same])
  rintro runlist _ rfl
  rw [yields_bind, yields_get, yields_bind]
  refine (yields_takeFirst _).mono ?_ fun _ _ same => sameShares_of_groups (by rw [same])
  rintro ⟨id, rest⟩ state ⟨free, -, rfl⟩
  obtain ⟨_, holds, unused⟩ := sound.consistent.freeGroup.mp free
  obtain ⟨group, found, rfl⟩ := Option.map_eq_some_iff.mp holds
  let fresh : Group := { inUse := true, runlist := list, timeslice := state.config.timeslice }
  change Allots { state with groups := state.groups.modify id fun _ => fresh } id fresh.timeslice ∧
    ∀ groupId slice, state.Allots groupId slice →
      Allots { state with groups := state.groups.modify id fun _ => fresh } groupId slice
  have placed (other : Nat) : (state.groups.modify id fun _ => fresh)[other]? =
      if id = other then state.groups[other]?.map fun _ => fresh else state.groups[other]? :=
    Array.getElem?_modify
  refine ⟨?_, fun groupId slice allots => ?_⟩
  · unfold Allots
    rw [placed, if_pos rfl, found]
    rfl
  · have apart : id ≠ groupId := by
      rintro rfl
      obtain ⟨other, here, inUse, -⟩ := allots.exists_group
      rw [found, Option.some.injEq] at here
      subst here
      exact absurd (inUse.symm.trans unused) (by decide)
    unfold Allots
    rw [placed, if_neg apart]
    exact allots

/-- A timeslice that is set is the one that the group has, and other groups keep theirs. -/
theorem yields_setTimeslice_allots (id : Nat) (given : Timeslice) (scheduler : Scheduler) :
    (setTimeslice id given).Yields scheduler
      (fun _ after => after.Allots id given ∧
        ∀ groupId slice, id ≠ groupId → scheduler.Allots groupId slice →
          after.Allots groupId slice)
      fun _ after => SameShares scheduler after := by
  unfold setTimeslice
  rw [yields_bind, yields_group]
  cases found : scheduler.groups[id]? with
  | none => exact sameShares_of_groups rfl
  | some group =>
    dsimp only
    split
    · rename_i inUse
      refine ⟨?_, fun groupId slice apart allots => allots.of_changeGroup apart _⟩
      change (scheduler.groups.modify id _)[id]?.map Group.share = _
      rw [Array.getElem?_modify, if_pos rfl, found]
      exact congrArg (fun used => some (used, given)) inUse
    · exact sameShares_of_groups rfl

/-- A group that is given up leaves the other groups their timeslices, and one that is not given up
keeps its own. -/
theorem yields_destroyGroup_allots (id : Nat) (scheduler : Scheduler) :
    (destroyGroup id).Yields scheduler
      (fun _ after => ∀ groupId slice, id ≠ groupId → scheduler.Allots groupId slice →
        after.Allots groupId slice)
      fun _ after => SameShares scheduler after := by
  unfold destroyGroup
  rw [yields_bind]
  refine (reads_group id scheduler).mono ?_ fun _ _ same => sameShares_of_groups (by rw [same])
  rintro group _ rfl
  dsimp only
  split
  · exact sameShares_of_groups rfl
  · exact fun groupId slice apart allots => allots.of_changeGroup apart _

/-- The entries of channels are no headers. -/
theorem filter_channelEntries (ids : List Nat) :
    (ids.map channelEntry).filter (RunlistEntry.isHeaderOf groupId) = [] := by
  rw [List.filter_map, List.map_eq_nil_iff, List.filter_eq_nil_iff]
  exact fun _ _ => Bool.false_ne_true

/-- The entries of a group hold one header, which is that of the group. -/
theorem filter_groupListing (small : id < 4096) :
    (scheduler.groupListing runlistId id).filter (RunlistEntry.isHeaderOf groupId) =
      if id = groupId then
        [.group (UInt32.ofNat id) (UInt32.ofNat (scheduler.activeMembers runlistId id).length)
          (scheduler.groupTimeslice id)]
      else [] := by
  have number : (UInt32.ofNat id).toNat = id :=
    UInt32.toNat_ofNat_of_lt' (small.trans (by decide))
  have header : ∀ len slice, (RunlistEntry.group (UInt32.ofNat id) len slice).isHeaderOf groupId =
      (id == groupId) := fun _ _ => congrArg (· == groupId) number
  unfold groupListing
  rw [List.filter_cons, filter_channelEntries, header]
  simp only [beq_iff_eq]

/-- The entries of other groups hold no header of the group. -/
theorem filter_otherListings {ids : List Nat} (others : ∀ id ∈ ids, id < 4096 ∧ id ≠ groupId) :
    ids.flatMap (fun id => (scheduler.groupListing runlistId id).filter
      (RunlistEntry.isHeaderOf groupId)) = [] := by
  rw [List.flatMap_eq_nil_iff]
  intro id mem
  rw [filter_groupListing (others id mem).1, if_neg (others id mem).2]

/-- An active group has one header in the list. -/
theorem filter_listing (sound : scheduler.Sound exact)
    (isActive : groupId ∈ scheduler.activeGroupIds runlistId) :
    (scheduler.listing runlistId).filter (RunlistEntry.isHeaderOf groupId) =
      [.group (UInt32.ofNat groupId)
        (UInt32.ofNat (scheduler.activeMembers runlistId groupId).length)
        (scheduler.groupTimeslice groupId)] := by
  have groups := (Config.fits_of_fault sound.shaped.accepted).2.1
  rw [← sound.shaped.groups] at groups
  have small : ∀ id ∈ scheduler.activeGroupIds runlistId, id < 4096 := fun id mem =>
    Nat.lt_of_lt_of_le (List.mem_range.mp (List.mem_of_mem_filter mem)) groups
  have nodup : (scheduler.activeGroupIds runlistId).Nodup := List.nodup_range.filter _
  unfold listing
  rw [List.filter_append, filter_channelEntries, List.nil_append, List.filter_flatMap]
  obtain ⟨earlier, later, split⟩ := List.append_of_mem isActive
  rw [split] at small nodup ⊢
  have apart := List.nodup_middle.mp nodup
  rw [List.nodup_cons, List.mem_append, not_or] at apart
  rw [List.flatMap_append, List.flatMap_cons, filter_otherListings, filter_otherListings,
    filter_groupListing (small groupId (by simp)), if_pos rfl]
  · rfl
  · exact fun id mem => ⟨small id (by simp [mem]), fun same => apart.1.2 (same ▸ mem)⟩
  · exact fun id mem => ⟨small id (by simp [mem]), fun same => apart.1.1 (same ▸ mem)⟩

/-- The group of a member that is listed is active. -/
theorem mem_activeGroupIds (sound : scheduler.Sound exact)
    (isMember : id ∈ scheduler.targetChannels (.group groupId))
    (listed : id ∈ scheduler.listedIds runlistId) :
    groupId ∈ scheduler.activeGroupIds runlistId := by
  obtain ⟨group, inTable, among⟩ := mem_targetChannels_group.mp isMember
  obtain ⟨channel, found, -, own⟩ := channel_of_member sound inTable among
  rcases List.mem_append.mp listed with lone | grouped
  · have alone := List.of_mem_filter lone
    rw [Bool.and_eq_true] at alone
    have ungrouped := alone.2
    unfold Scheduler.ungrouped at ungrouped
    rw [found] at ungrouped
    simp [own] at ungrouped
  · obtain ⟨other, isActive, inOther⟩ := List.mem_flatMap.mp grouped
    obtain ⟨same, holds, belongs⟩ := group_of_mem_activeMembers sound inOther
    rw [found, Option.some.injEq] at holds
    rw [← holds, own, Option.some.injEq] at belongs
    rwa [belongs]

/-- Before a list is submitted groups keep their timeslices and their members. -/
theorem Submits.groups (sound : scheduler.Sound exact) {update : Option Nat} {add : Bool}
    (submits : Submits runlistId add scheduler update middle) :
    SameShares scheduler middle ∧
      middle.targetChannels (.group groupId) = scheduler.targetChannels (.group groupId) := by
  cases submits with
  | again => exact ⟨Std.Refl.refl _, rfl⟩
  | @changed id _ changes =>
    have toggled : Toggled runlistId id add scheduler middle :=
      ((yields_setActive sound add).of_ok changes).2
    have shares := (shifts_setActive runlistId id add scheduler).shares
    rw [changes] at shares
    exact ⟨shares, toggled.toSteady.targetChannels _⟩

/-- An update that submits a list and returns leaves the hardware with one header for a group whose
members are on the list, with as much of its timeslice as fits there. -/
theorem exists_header (sound : scheduler.Sound exact) (allots : scheduler.Allots groupId slice)
    {update : Option Nat} {add wait : Bool}
    (submits : Submits runlistId add scheduler update middle)
    (returns : updateRunlist runlistId update add wait scheduler = (.ok (), after)) :
    ∃ entries, snapshot runlistId after = (.ok entries, after) ∧
      ((∃ member ∈ scheduler.targetChannels (.group groupId),
          member ∈ entries.filterMap RunlistEntry.channelId?) →
        ∃ len, entries.filter (RunlistEntry.isHeaderOf groupId) =
          [.group (UInt32.ofNat groupId) len { slice with scale := slice.scale % 16 }]) := by
  obtain ⟨soundMiddle, -, ⟨runlist, found⟩, updates⟩ := updateRunlist_of_submits sound submits wait
  obtain ⟨shares, members⟩ := submits.groups sound
  obtain ⟨handed, hands, goesOn⟩ := exists_handed soundMiddle found wait
  rw [updates, goesOn, ← List.length_map RunlistEntry.stored] at returns
  refine ⟨_, snapshot_of_takeUp hands returns, ?_⟩
  rintro ⟨member, isMember, isListed⟩
  rw [← members] at isMember
  rw [filterMap_stored_listing soundMiddle] at isListed
  have isActive := mem_activeGroupIds soundMiddle isMember isListed
  have timeslice : middle.groupTimeslice groupId = slice := by
    obtain ⟨group, inTable, -, own⟩ := (allots.same shares).exists_group
    unfold groupTimeslice
    rw [inTable]
    exact own
  refine ⟨UInt32.ofNat (middle.activeMembers runlistId groupId).length, ?_⟩
  rw [List.filter_map,
    show RunlistEntry.isHeaderOf groupId ∘ RunlistEntry.stored = RunlistEntry.isHeaderOf groupId
      from funext (RunlistEntry.isHeaderOf_stored groupId),
    filter_listing soundMiddle isActive, timeslice]
  rfl

end Scheduler

/-- The requests that set groups up, give them up or set their timeslices. -/
def Request.regroups : Request → Bool
  | .createGroup .. | .destroyGroup .. | .timeslice .. => true
  | _ => false

namespace Session

open Scheduler

variable {config : Config} {machine : Machine} {before session : Session} {request : Request}
  {groupId : Nat} {slice : Timeslice}

/-- All other requests leave the shares alone. -/
theorem sameShares_perform (keeps : request.regroups = false) (session : Session) :
    Along SameShares session (perform request session).2 := by
  by_cases stays : request.alters = false
  · refine respects_plan recovers_sameShares (fun α step isFor => ?_) session
    cases step with
    | update list id add wait => exact sameShares_updateRunlist list id add wait
    | withdraw list id => exact sameShares_updateRunlist list (some id) false true
    | switch engine disabled =>
      exact (drives_setEngineDisabled engine disabled).mono fun _ _ => Drives.sameShares
    | resets id group =>
      exact (drives_runDeferredResets id group).mono fun _ _ => Drives.sameShares
    | alter operation alters => exact absurd (isFor.symm.trans stays) (by decide)
    | event injection => exact Act.respects_inject (fun _ _ => sameShares_of_groups rfl) injection
  · have start : SameShares session.scheduler session.scheduler := Std.Refl.refl _
    unfold Along
    rw [scheduler_perform]
    cases request
    case bind handle binding =>
      change SameShares _
        ((session.planUnlessTaken handle (.mapping .id _)).run session.scheduler).2
      unfold planUnlessTaken
      split
      · exact start
      · rw [scheduler_mapping]
        exact enrolls_sameShares.bind binding session.scheduler
    case drop handle =>
      exact holds_planOn (Script.run_drop _ _ _) start fun id _ =>
        sameShares_drop id session.scheduler
    case acknowledge handle =>
      exact holds_planOn (Script.run_acknowledgeFault _) start fun id _ =>
        sameShares_acknowledgeFault id session.scheduler
    case join handle group =>
      exact holds_planOn (fun _ => rfl) start fun id _ =>
        enrolls_sameShares.joinGroup group id session.scheduler
    case leave handle =>
      exact holds_planOn (Script.run_leaveGroup _ _) start fun id _ =>
        sameShares_leaveGroup id session.scheduler
    case attach target => exact sameShares_of_groups rfl
    case detach target => exact sameShares_of_groups rfl
    all_goals first | exact absurd rfl stays | cases keeps

/-- A request for a group is answered with its number, and the group has its timeslice. -/
theorem yields_performCreateGroup (intact : session.scheduler.Intact False) (list : Nat) :
    (perform (.createGroup list)).Yields session
      (fun reply after => ∃ id, reply = .id id ∧
        after.scheduler.Allots id session.scheduler.config.timeslice ∧
        ∀ groupId slice, session.scheduler.Allots groupId slice →
          after.scheduler.Allots groupId slice)
      fun _ after => SameShares session.scheduler after.scheduler := by
  change (call (Reply.id <$> createGroup list)).Yields session _ _
  unfold call
  rw [yields_focus, yields_map]
  exact (yields_createGroup_allots intact.sound list).imp fun id _ given => ⟨id, rfl, given⟩

/-- A timeslice is set by request. -/
theorem yields_performTimeslice (id : Nat) (given : Timeslice) (session : Session) :
    (perform (.timeslice id given)).Yields session
      (fun _ after => after.scheduler.Allots id given ∧
        ∀ groupId slice, id ≠ groupId → session.scheduler.Allots groupId slice →
          after.scheduler.Allots groupId slice)
      fun _ after => SameShares session.scheduler after.scheduler := by
  change (call (setTimeslice id given *> pure Reply.done)).Yields session _ _
  unfold call
  rw [yields_focus, yields_seqRight]
  exact yields_setTimeslice_allots id given session.scheduler

/-- A group is given up by request. -/
theorem yields_performDestroyGroup (id : Nat) (session : Session) :
    (perform (.destroyGroup id)).Yields session
      (fun reply after => reply = .done ∧
        ∀ groupId slice, id ≠ groupId → session.scheduler.Allots groupId slice →
          after.scheduler.Allots groupId slice)
      fun _ after => SameShares session.scheduler after.scheduler := by
  change (call (destroyGroup id *> pure Reply.done)).Yields session _ _
  unfold call
  rw [yields_focus, yields_seqRight]
  exact (yields_destroyGroup_allots id session.scheduler).imp fun _ _ others => ⟨rfl, others⟩

/-- A request that neither sets the timeslice of a group nor gives the group up. -/
def SparesSlice (groupId : Nat) (session : Session) : Request → Prop
  | .timeslice id _ => id ≠ groupId
  | .destroyGroup id => id ≠ groupId ∨ (perform (.destroyGroup id) session).1 ≠ .ok .done
  | _ => True

/-- Such a request leaves the group its timeslice. -/
theorem allots_perform (intact : session.scheduler.Intact False)
    (spares : SparesSlice groupId session request)
    (allots : session.scheduler.Allots groupId slice) :
    (perform request session).2.scheduler.Allots groupId slice := by
  let kept : Session → Prop := fun session => session.scheduler.Allots groupId slice
  by_cases regroups : request.regroups = false
  · exact allots.same (sameShares_perform regroups session)
  · cases request
    case createGroup list =>
      have keeps : (perform (.createGroup list)).Yields session (fun _ after => kept after)
          fun _ after => kept after :=
        (yields_performCreateGroup intact list).mono
          (fun _ _ ⟨_, _, _, others⟩ => others groupId slice allots) fun _ _ => allots.same
      exact keeps.holds
    case timeslice id given =>
      have keeps : (perform (.timeslice id given)).Yields session (fun _ after => kept after)
          fun _ after => kept after :=
        (yields_performTimeslice id given session).mono
          (fun _ _ ⟨_, others⟩ => others groupId slice spares allots) fun _ _ => allots.same
      exact keeps.holds
    case destroyGroup id =>
      have ends := yields_performDestroyGroup id session
      rcases run : perform (.destroyGroup id) session with ⟨failure | reply, after⟩
      · exact allots.same (ends.of_error run)
      · obtain ⟨rfl, others⟩ := ends.of_ok run
        refine others groupId slice (spares.resolve_right fun refused => ?_) allots
        exact refused (congrArg Prod.fst run)
    all_goals exact absurd rfl regroups

/-- The requests that give a group its timeslice: one that sets it, and the one that sets the group
up, with the timeslice of the configuration. -/
inductive Assigns (config : Config) (session : Session) : Request → Nat → Timeslice → Prop where
  | set {groupId : Nat} {slice : Timeslice}
      (answered : (perform (.timeslice groupId slice) session).1 = .ok .done) :
      Assigns config session (.timeslice groupId slice) groupId slice
  | created {list groupId : Nat}
      (answered : (perform (.createGroup list) session).1 = .ok (.id groupId)) :
      Assigns config session (.createGroup list) groupId config.timeslice

/-- A group that is given a timeslice has it. -/
theorem Assigns.allots (assigns : Assigns config session request groupId slice)
    (intact : session.scheduler.Intact False) (same : session.scheduler.config = config) :
    (perform request session).2.scheduler.Allots groupId slice := by
  cases assigns with
  | set answered =>
    exact ((yields_performTimeslice groupId slice session).of_ok (Prod.ext answered rfl)).1
  | @created list groupId answered =>
    obtain ⟨id, told, given, -⟩ :=
      (yields_performCreateGroup intact list).of_ok (Prod.ext answered rfl)
    cases told
    rwa [same] at given

/-- Along a run of requests that spare it a group keeps its timeslice. -/
theorem Since.allots (since : Since (SparesSlice groupId) before session)
    (intact : before.scheduler.Intact False) (allots : before.scheduler.Allots groupId slice) :
    session.scheduler.Intact False ∧ session.scheduler.Allots groupId slice := by
  induction since with
  | start => exact ⟨intact, allots⟩
  | performed since request spares ih =>
    exact ⟨(intact_perform ih.1 False.elim request).1, allots_perform ih.1 spares ih.2⟩

/-- A timeslice that a group is given, by a client or by the configuration, stays with it through
every run that neither sets another one nor gives the group up. Whenever an update has submitted a
list with members of the group and returned, the hardware reads one header of the group, with the
timeout as it was given and with the low four bits of the scale: the timeslice itself arrives just
when its scale is below sixteen. -/
theorem reached_timeslice (reached : Reached config machine (fun _ => True) before)
    (assigns : Assigns config before request groupId slice)
    (since : Since (SparesSlice groupId) (perform request before).2 session) {runlistId : Nat}
    {id : Option Nat} {add wait : Bool} {middle after : Scheduler}
    (submits : Submits runlistId add session.scheduler id middle)
    (returns : updateRunlist runlistId id add wait session.scheduler = (.ok (), after)) :
    ∃ entries, snapshot runlistId after = (.ok entries, after) ∧
      ((∃ member ∈ session.scheduler.targetChannels (.group groupId),
          member ∈ entries.filterMap RunlistEntry.channelId?) →
        ∃ len sent, entries.filter (RunlistEntry.isHeaderOf groupId) =
            [.group (UInt32.ofNat groupId) len sent] ∧
          sent.timeout = slice.timeout ∧ sent.scale = slice.scale % 16 ∧
          (sent = slice ↔ slice.scale.toNat < 16)) := by
  obtain ⟨intact, same⟩ := reached.intact False fun _ _ _ => False.elim
  have given := assigns.allots intact same
  obtain ⟨kept, allots⟩ := since.allots (intact_perform intact False.elim request).1 given
  obtain ⟨entries, snapshots, headers⟩ := exists_header kept.sound allots submits returns
  refine ⟨entries, snapshots, fun listed => ?_⟩
  obtain ⟨len, header⟩ := headers listed
  refine ⟨len, _, header, rfl, rfl, ?_⟩
  obtain ⟨scale, timeout⟩ := slice
  rw [Timeslice.mk.injEq, ← UInt8.toNat_inj, UInt8.toNat_mod]
  change scale.toNat % 16 = scale.toNat ∧ timeout = timeout ↔ scale.toNat < 16
  rw [and_iff_left rfl, Nat.mod_eq_iff_lt (by decide)]

/-- The greatest scale that has room is set, and the engine is disabled and enabled again before the
member of the group becomes active: the timeslice arrives as it was set. -/
theorem timeslice_of_greatest_scale : ∃ session after entries len,
    updateRunlist 0 (some 0) true true (session : Session).scheduler = (.ok (), after) ∧
      snapshot 0 after = (.ok entries, after) ∧
      entries.filter (RunlistEntry.isHeaderOf 0) = [.group 0 len ⟨15, 200⟩] := by
  let joins : List Request := [.bind 0 { runlist := 0 }, .createGroup 0, .join 0 0]
  let sets : Request := .timeslice 0 ⟨15, 200⟩
  let pauses : List Request := [.disableEngine 0 false, .enableEngine 0]
  let list : List RunlistEntry := [.group 0 1 ⟨15, 200⟩, .channel 0]
  have outcome : (Scheduler.create oneEngine poweredUp).toOption.map (fun scheduler =>
      let before := performAll { scheduler } joins
      let session := performAll (perform sets before).2 pauses
      decide ((perform sets before).1.toOption = some .done ∧
        (setActive 0 0 true session.scheduler).1.toOption = some true ∧
        (updateRunlist 0 (some 0) true true session.scheduler).1.toOption = some () ∧
        (snapshot 0 (updateRunlist 0 (some 0) true true session.scheduler).2).1.toOption =
          some list ∧
        0 ∈ session.scheduler.targetChannels (.group 0))) = some true := by decide +kernel
  obtain ⟨scheduler, created, holds⟩ := exists_created outcome
  obtain ⟨answered, changes, returns, shows, isMember⟩ := decide_eq_true_iff.mp holds
  have reached : Reached oneEngine poweredUp (fun _ => True) (performAll { scheduler } joins) :=
    (Reached.created created).performAll fun _ _ => trivial
  have since : Since (SparesSlice 0) (perform sets (performAll { scheduler } joins)).2
      (performAll (perform sets (performAll { scheduler } joins)).2 pauses) :=
    Since.performAll_of_always .start fun request mem session => by
      obtain rfl | rfl : request = .disableEngine 0 false ∨ request = .enableEngine 0 := by
        simpa [pauses] using mem
      all_goals exact trivial
  obtain ⟨entries, snapshots, headers⟩ := reached_timeslice reached
    (.set (eq_ok_of_toOption answered)) since (.changed (run_of_toOption changes))
    (run_of_toOption returns)
  have same : entries = list := by
    rw [snapshots] at shows
    exact Option.some.inj shows
  obtain ⟨len, sent, header, -, -, whole⟩ := headers ⟨0, isMember, by rw [same]; decide⟩
  rw [whole.mpr (by decide)] at header
  exact ⟨_, _, entries, len, run_of_toOption returns, snapshots, header⟩

/-- A scale of sixteen is accepted, and the hardware reads a scale of zero. -/
theorem timeslice_of_wide_scale : ∃ before session after,
    Reached oneEngine poweredUp (fun _ => True) before ∧
      perform (.timeslice 0 ⟨16, 128⟩) before = (.ok .done, session) ∧
      updateRunlist 0 (some 0) true true session.scheduler = (.ok (), after) ∧
      snapshot 0 after = (.ok [.group 0 1 ⟨0, 128⟩, .channel 0], after) := by
  let joins : List Request := [.bind 0 { runlist := 0 }, .createGroup 0, .join 0 0]
  have outcome : (Scheduler.create oneEngine poweredUp).toOption.map (fun scheduler =>
      let before := performAll { scheduler } joins
      let session := (perform (.timeslice 0 ⟨16, 128⟩) before).2
      decide ((perform (.timeslice 0 ⟨16, 128⟩) before).1.toOption = some .done ∧
        (updateRunlist 0 (some 0) true true session.scheduler).1.toOption = some () ∧
        (snapshot 0 (updateRunlist 0 (some 0) true true session.scheduler).2).1.toOption =
          some [.group 0 1 ⟨0, 128⟩, .channel 0])) = some true := by decide +kernel
  obtain ⟨scheduler, created, holds⟩ := exists_created outcome
  obtain ⟨answered, returns, shows⟩ := decide_eq_true_iff.mp holds
  have reached : Reached oneEngine poweredUp (fun _ => True) (performAll { scheduler } joins) :=
    (Reached.created created).performAll fun _ _ => trivial
  have snapshots := run_of_toOption shows
  rw [(reads_snapshot 0 _).of_ok snapshots] at snapshots
  exact ⟨_, _, _, reached, run_of_toOption answered, run_of_toOption returns, snapshots⟩

end Session

end GpuSched
