import GpuSched.Proofs.Scheduler.Faults

/-!
# Taking stopped channels out of the active sets

Servicing faults answers the targets that it has stopped. Their channels are halted: they are there
and do not run. Taking a halted channel out of an active set changes that active set alone, so a
loop over the channels of some targets drops just those that it is meant to drop.
-/
namespace GpuSched

open Operation

namespace Scheduler

variable {exact : Prop} {scheduler before middle after : Scheduler} {id runlistId : Nat}
  {channel : Channel} {runlist next : Runlist} {touched marked dropped : Set Nat}

/-- A channel that is there and does not run. -/
def Halted (scheduler : Scheduler) (id : Nat) : Prop :=
  ∃ channel, scheduler.channels[id]? = some channel ∧
    (channel.state = .free ∨ channel.state = .faulted)

/-- Taking a halted channel out of an active set changes nothing else. -/
theorem Toggled.stops (toggled : Toggled runlistId id false before after)
    (sound : before.Sound exact) (halted : before.Halted id) : Stops ∅ ∅ {id} before after := by
  obtain ⟨channel, found, live, here, changed⟩ := toggled.own
  obtain ⟨held, holds, state⟩ := halted
  rw [found, Option.some.injEq] at holds
  subst holds
  have faulted := state.resolve_left live
  have same : after.channels[id]? = some channel := by
    rw [changed, faulted]
    change some { channel with state := .faulted } = some channel
    rw [← faulted]
  refine { toggled.toSteady with
    words := by rw [toggled.machine]; exact .refl ∅ _
    spared := fun {other held} holds _ => ?_
    faulted := fun mem => absurd mem (Set.notMem_empty _)
    stays := fun {list other} apart => ?_
    drops := fun {list other} mem => ?_ }
  · by_cases own : other = id
    · subst own
      rw [same, ← found, holds]
    · rw [toggled.others own, holds]
  · rw [toggled.active, if_neg fun own => apart own.2]
  · rw [Set.mem_singleton_iff] at mem
    subst mem
    rw [toggled.active]
    split
    · rfl
    · rename_i elsewhere
      rw [Bool.eq_false_iff]
      intro on
      have seat := seat_of_found found
      have list := sound.consistent.runlist_eq seat on
      exact elsewhere ⟨list.symm.trans here, rfl⟩

/-- A channel that is not in the active set of its runlist is in none. -/
theorem off_of_own (sound : scheduler.Sound exact) (found : scheduler.channels[id]? = some channel)
    (off : scheduler.activeOn channel.runlist id = false) (list : Nat) :
    scheduler.activeOn list id = false := by
  rw [Bool.eq_false_iff]
  intro on
  have seat := seat_of_found found
  have same : channel.runlist = list := sound.consistent.runlist_eq seat on
  rw [← same, off] at on
  cases on

/-- Nothing was done about a channel that is in no active set. -/
theorem stops_off (off : ∀ list, scheduler.activeOn list id = false) (touched : Set Nat) :
    Stops touched ∅ {id} scheduler scheduler := by
  refine (Stops.refl touched scheduler).drop (Set.empty_subset _) fun other mem _ list => ?_
  rw [Set.mem_singleton_iff] at mem
  rw [mem]
  exact off list

/-- A halted channel is halted after it was taken out of its active set. -/
theorem Halted.still (halted : before.Halted id)
    (stops : Stops touched ∅ dropped before after) : after.Halted id := by
  obtain ⟨channel, found, state⟩ := halted
  exact ⟨channel, stops.spared found (.inl (Set.notMem_empty _)), state⟩

/-- Taking a halted channel out of the active set of its runlist, refused or not. -/
theorem yields_delist (sound : scheduler.Sound exact) (halted : scheduler.Halted id)
    (found : scheduler.channels[id]? = some channel) (here : channel.runlist = runlistId) :
    (setActive runlistId id false).disregard.Yields scheduler
      (fun _ after => after.Sound exact ∧ Stops ∅ ∅ {id} scheduler after) fun _ _ => False := by
  rw [yields_disregard]
  refine (yields_setActive sound false).mono ?_ ?_
  · rintro changed after ⟨soundAfter, outcome⟩
    cases changed with
    | true => exact ⟨soundAfter, Toggled.stops outcome sound halted⟩
    | false =>
      obtain ⟨rfl, off⟩ := outcome
      subst here
      exact ⟨soundAfter, stops_off (off_of_own sound found off) ∅⟩
  · rintro failure after ⟨rfl, ⟨error, rfl⟩, off⟩
    subst here
    exact ⟨sound, stops_off (off_of_own sound found (off rfl)) ∅⟩

/-- The channels that some targets cover. -/
def covered (scheduler : Scheduler) (targets : List Target) : Set Nat :=
  {id | ∃ target ∈ targets, id ∈ scheduler.targetChannels target}

section Targets

variable {act : Nat → Operation Scheduler Unit} {chosen : Set Nat}
  (each : ∀ middle id, middle.Sound exact → Steady scheduler middle → middle.Halted id →
    (act id).Yields middle
      (fun _ after => after.Sound exact ∧ Stops touched ∅ ({id} ∩ chosen) middle after)
      fun _ _ => False)

include each

/-- A step that takes out the chosen ones of halted channels, for each of a list. -/
theorem yields_forChannels {ids : List Nat} (sound : middle.Sound exact)
    (steady : Steady scheduler middle) (halted : ∀ id ∈ ids, middle.Halted id) :
    (ids.forM act).Yields middle
      (fun _ after => after.Sound exact ∧ Stops touched ∅ ({id | id ∈ ids} ∩ chosen) middle after)
      fun _ _ => False := by
  refine yields_forM (fun done after => after.Sound exact ∧
    Stops touched ∅ ({id | id ∈ done} ∩ chosen) middle after) ⟨sound, ?_⟩ ?_
  · refine (Stops.refl touched middle).drop (Set.empty_subset _) ?_
    rintro id ⟨⟨⟩, _⟩
  · rintro done id rest current whole ⟨soundCurrent, stops⟩
    have haltedNow := (halted id (by simp [whole])).still stops
    refine (each current id soundCurrent (steady.trans stops.toSteady) haltedNow).imp ?_
    rintro _ after ⟨soundAfter, later⟩
    refine ⟨soundAfter, ?_⟩
    have both := stops.trans later
    have sets : {id | id ∈ done} ∩ chosen ∪ {id} ∩ chosen =
        {other | other ∈ done ++ [id]} ∩ chosen := by
      ext other
      simp only [Set.mem_union, Set.mem_inter_iff, Set.mem_ofPred_eq, Set.mem_singleton_iff,
        List.mem_append, List.mem_singleton]
      tauto
    rwa [Set.union_self, sets] at both

/-- A step that takes out the chosen ones of halted channels, for each of some targets. -/
theorem yields_forTargets {targets : List Target} (sound : scheduler.Sound exact)
    (halted : ∀ id ∈ scheduler.covered targets, scheduler.Halted id) :
    (targets.forM fun target => do
      ((← get).targetChannels target).forM act : Operation Scheduler Unit).Yields scheduler
      (fun _ after => after.Sound exact ∧
        Stops touched ∅ (scheduler.covered targets ∩ chosen) scheduler after)
      fun _ _ => False := by
  refine yields_forM (fun done after => after.Sound exact ∧
    Stops touched ∅ (scheduler.covered done ∩ chosen) scheduler after) ⟨sound, ?_⟩ ?_
  · refine (Stops.refl touched scheduler).drop (Set.empty_subset _) ?_
    rintro id ⟨⟨target, ⟨⟩, _⟩, _⟩
  · rintro done target rest current whole ⟨soundCurrent, stops⟩
    rw [yields_bind, yields_get, stops.toSteady.targetChannels]
    have mem : target ∈ targets := by simp [whole]
    refine (yields_forChannels each soundCurrent stops.toSteady fun id covers =>
      (halted id ⟨target, mem, covers⟩).still stops).imp ?_
    rintro _ after ⟨soundAfter, later⟩
    refine ⟨soundAfter, ?_⟩
    have both := stops.trans later
    have sets : scheduler.covered done ∩ chosen ∪
        {id | id ∈ scheduler.targetChannels target} ∩ chosen =
        scheduler.covered (done ++ [target]) ∩ chosen := by
      ext id
      simp only [covered, Set.mem_union, Set.mem_inter_iff, Set.mem_ofPred_eq, List.mem_append,
        List.mem_singleton, or_and_right, exists_or, exists_eq_left]
    rwa [Set.union_self, sets] at both

end Targets

/-- The channels of a runlist. -/
def onRunlist (scheduler : Scheduler) (runlistId : Nat) : Set Nat :=
  {id | ∃ channel, scheduler.channels[id]? = some channel ∧ channel.runlist = runlistId}

/-- A channel stays on its runlist. -/
theorem Steady.onRunlist (steady : Steady before after) :
    after.onRunlist runlistId = before.onRunlist runlistId := by
  have one : ∀ {first second : Scheduler}, Steady first second →
      first.onRunlist runlistId ⊆ second.onRunlist runlistId := by
    rintro first second steady id ⟨channel, found, here⟩
    obtain ⟨changed, holds, core⟩ := steady.channel_found found
    exact ⟨changed, holds, (runlist_eq_of_core core).trans here⟩
  exact Set.Subset.antisymm (one steady.symm) (one steady)

/-- The halted channels of some targets are taken out of the active set of a runlist, as far as they
are on it. -/
theorem yields_dropTargets (sound : scheduler.Sound exact) {targets : List Target}
    (halted : ∀ id ∈ scheduler.covered targets, scheduler.Halted id) :
    (dropTargets runlistId targets).Yields scheduler
      (fun _ after => after.Sound exact ∧
        Stops ∅ ∅ (scheduler.covered targets ∩ scheduler.onRunlist runlistId) scheduler after)
      fun _ _ => False := by
  unfold dropTargets
  refine yields_forTargets (fun middle id soundMiddle steady haltedMiddle => ?_) sound halted
  have there := haltedMiddle
  obtain ⟨channel, found, _⟩ := there
  unfold channelAt
  rw [yields_bind, yields_bind, yields_get, yields_entry found]
  rw [← steady.onRunlist]
  split
  · rename_i here
    refine (yields_delist soundMiddle haltedMiddle found here).imp ?_
    rintro _ after ⟨soundAfter, stops⟩
    have both : ({id} : Set Nat) ∩ middle.onRunlist runlistId = {id} :=
      Set.inter_eq_left.mpr (Set.singleton_subset_iff.mpr ⟨channel, found, here⟩)
    rw [both]
    exact ⟨soundAfter, stops⟩
  · rename_i elsewhere
    refine ⟨soundMiddle, (Stops.refl ∅ middle).drop (Set.empty_subset _) ?_⟩
    rintro other ⟨own, held, holds, here⟩
    rw [Set.mem_singleton_iff] at own
    rw [own, found, Option.some.injEq] at holds
    exact absurd (holds ▸ here) elsewhere

/-- The channels in use. -/
def inUse (scheduler : Scheduler) : Set Nat :=
  {id | ∃ channel, scheduler.channels[id]? = some channel ∧ channel.state ≠ .free}

/-- A channel stays in use. -/
theorem Steady.inUse (steady : Steady before after) : after.inUse = before.inUse := by
  ext id
  exact steady.live_iff

/-- Some targets cover the same channels. -/
theorem Steady.covered (steady : Steady before after) (targets : List Target) :
    after.covered targets = before.covered targets := by
  unfold Scheduler.covered
  simp only [steady.targetChannels]

/-- A group covers its members. -/
theorem mem_targetChannels_group {groupId : Nat} :
    id ∈ scheduler.targetChannels (.group groupId) ↔
      ∃ group, scheduler.groups[groupId]? = some group ∧ id ∈ group.members := by
  unfold targetChannels
  dsimp only
  cases scheduler.groups[groupId]? with
  | none => simp
  | some group => simp

/-- A member of a group is a channel in use that knows its group. -/
theorem channel_of_member (sound : scheduler.Sound exact) {groupId : Nat} {group : Group}
    (found : scheduler.groups[groupId]? = some group) (isMember : id ∈ group.members) :
    ∃ channel, scheduler.channels[id]? = some channel ∧ channel.state ≠ .free ∧
      channel.group = some groupId := by
  have roster := roster_of_found found
  obtain ⟨seat, holds, grouped⟩ := sound.consistent.member roster isMember
  obtain ⟨channel, inTable, rfl⟩ := Option.map_eq_some_iff.mp holds
  refine ⟨channel, inTable, fun free => ?_, grouped⟩
  have alone := sound.consistent.loose holds free
  rw [alone] at grouped
  cases grouped

/-- A channel that a target with a channel in use covers is in use. -/
theorem inUse_of_live (sound : scheduler.Sound exact) {target : Target}
    (live : scheduler.Live target) (covers : id ∈ scheduler.targetChannels target) :
    id ∈ scheduler.inUse := by
  cases target with
  | group groupId =>
    obtain ⟨group, found, isMember⟩ := mem_targetChannels_group.mp covers
    obtain ⟨channel, inTable, inUse, _⟩ := channel_of_member sound found isMember
    exact ⟨channel, inTable, inUse⟩
  | channel own =>
    obtain ⟨other, isOwn, holds⟩ := live
    rw [List.mem_singleton.mp covers, ← List.mem_singleton.mp isOwn]
    exact holds

/-- A channel that is not in use is in no active set. -/
theorem off_of_not_inUse (sound : scheduler.Sound exact) (idle : id ∉ scheduler.inUse)
    (list : Nat) : scheduler.activeOn list id = false := by
  rw [Bool.eq_false_iff]
  intro on
  obtain ⟨seat, holds, _, state⟩ := sound.consistent.running on
  obtain ⟨channel, found, rfl⟩ := Option.map_eq_some_iff.mp holds
  refine idle ⟨channel, found, fun free => ?_⟩
  change channel.state = .active ∨ channel.state = .faulted at state
  rw [free] at state
  rcases state with active | faulted
  · cases active
  · cases faulted

/-- A marked channel in use is halted. -/
theorem Stops.halted (stops : Stops touched marked dropped before after) (mem : id ∈ marked)
    (live : id ∈ before.inUse) : after.Halted id := by
  rw [← stops.toSteady.inUse] at live
  obtain ⟨channel, found, inUse⟩ := live
  exact ⟨channel, found, .inr (stops.faulted mem found inUse)⟩

/-- Servicing faults stops the channels that they are blamed on. The targets that it answers cover
those of them that are in use. -/
theorem yields_stopFaults (sound : scheduler.Sound exact) (forced : Option ForcedFault) :
    (handleFaults forced).Yields scheduler
      (fun targets after => after.Sound exact ∧
        Stops (Device.faultRegisters forced)
          (scheduler.blamedChannels forced (scheduler.faultList forced)) ∅ scheduler after ∧
        (∀ id ∈ after.covered targets, after.Halted id) ∧
        after.covered targets =
          scheduler.blamedChannels forced (scheduler.faultList forced) ∩ scheduler.inUse)
      fun _ _ => False := by
  refine (yields_handleFaults sound forced).imp ?_
  rintro targets after ⟨soundAfter, stops, listed⟩
  have covered : after.covered targets =
      scheduler.blamedChannels forced (scheduler.faultList forced) ∩ scheduler.inUse := by
    rw [stops.toSteady.covered]
    ext id
    constructor
    · rintro ⟨target, mem, covers⟩
      obtain ⟨⟨faultId, isFault, blames⟩, live⟩ := (listed target).mp mem
      exact ⟨⟨faultId, isFault, target, blames, covers⟩, inUse_of_live sound live covers⟩
    · rintro ⟨⟨faultId, isFault, target, blames, covers⟩, inUse⟩
      exact ⟨target, (listed target).mpr ⟨⟨faultId, isFault, blames⟩, id, covers, inUse⟩, covers⟩
  refine ⟨soundAfter, stops, fun id mem => ?_, covered⟩
  rw [covered] at mem
  exact stops.halted mem.1 mem.2

end Scheduler

end GpuSched
