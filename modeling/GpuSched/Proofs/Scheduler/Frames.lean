import GpuSched.Proofs.Register.Accesses
import GpuSched.Proofs.Scheduler.Tables

/-!
# What stopping channels leaves alone

Putting channels into active sets, taking them out and marking them faulted changes states, active
sets and counters. Everything else stays: who belongs to which group and runlist, what is in use,
and all registers but those that the scheduler drives. `Stops` says in addition which channels have
been marked faulted and which have been taken out of every active set.
-/
namespace GpuSched

/-- A channel without what stopping it changes. -/
def Channel.core (channel : Channel) : Channel :=
  { channel with state := if channel.state = .free then .free else .bound, fault := none }

/-- A group without its counter. -/
def Group.core (group : Group) : Group := { group with active := 0 }

namespace Scheduler

variable {before middle after scheduler : Scheduler} {id groupId runlistId : Nat}
  {channel : Channel} {group : Group}

/-- Memberships of groups, runlists and pools stay. -/
structure Steady (before after : Scheduler) : Prop where
  config : after.config = before.config
  listed : after.runlists.contains = before.runlists.contains
  freeChannels : after.freeChannels = before.freeChannels
  freeGroups : after.freeGroups = before.freeGroups
  channel : ∀ id : Nat, after.channels[id]?.map Channel.core = before.channels[id]?.map Channel.core
  group : ∀ id : Nat, after.groups[id]?.map Group.core = before.groups[id]?.map Group.core

namespace Steady

/-- Nothing happened. -/
theorem refl (scheduler : Scheduler) : Steady scheduler scheduler :=
  ⟨rfl, rfl, rfl, rfl, fun _ => rfl, fun _ => rfl⟩

/-- One steady step after another. -/
theorem trans (one : Steady before middle) (two : Steady middle after) : Steady before after :=
  ⟨two.config.trans one.config, two.listed.trans one.listed,
    two.freeChannels.trans one.freeChannels, two.freeGroups.trans one.freeGroups,
    fun id => (two.channel id).trans (one.channel id),
    fun id => (two.group id).trans (one.group id)⟩

/-- A steady step backwards. -/
theorem symm (steady : Steady before after) : Steady after before :=
  ⟨steady.config.symm, steady.listed.symm, steady.freeChannels.symm, steady.freeGroups.symm,
    fun id => (steady.channel id).symm, fun id => (steady.group id).symm⟩

/-- A channel is found after a steady step just when it was before, but for its state. -/
theorem channel_found (steady : Steady before after)
    (found : before.channels[id]? = some channel) :
    ∃ changed, after.channels[id]? = some changed ∧ changed.core = channel.core := by
  have same := steady.channel id
  rw [found, Option.map_some, Option.map_eq_some_iff] at same
  exact same

/-- A group is found after a steady step just when it was before, but for its counter. -/
theorem group_found (steady : Steady before after) (found : before.groups[id]? = some group) :
    ∃ changed, after.groups[id]? = some changed ∧ changed.core = group.core := by
  have same := steady.group id
  rw [found, Option.map_some, Option.map_eq_some_iff] at same
  exact same

end Steady

/-- Two channels with the same core are in use alike. -/
theorem state_eq_free_iff {one two : Channel} (same : one.core = two.core) :
    one.state = .free ↔ two.state = .free := by
  have state := congrArg Channel.state same
  unfold Channel.core at state
  dsimp only at state
  by_cases first : one.state = .free <;> by_cases second : two.state = .free <;>
    simp_all

/-- Two channels with the same core are in the same group. -/
theorem group_eq_of_core {one two : Channel} (same : one.core = two.core) :
    one.group = two.group := by
  have group := congrArg Channel.group same
  exact group

/-- Two channels with the same core are on the same runlist. -/
theorem runlist_eq_of_core {one two : Channel} (same : one.core = two.core) :
    one.runlist = two.runlist := by
  have runlist := congrArg Channel.runlist same
  exact runlist

namespace Steady

/-- A target covers the same channels. -/
theorem targetChannels (steady : Steady before after) (target : Target) :
    after.targetChannels target = before.targetChannels target := by
  cases target with
  | channel id => rfl
  | group id =>
    have same := congrArg (Option.map Group.members) (steady.group id)
    rw [Option.map_map, Option.map_map] at same
    unfold Scheduler.targetChannels
    exact congrArg (Option.getD · []) same

/-- A channel counts as the same target. -/
theorem normalize (steady : Steady before after) (target : Target) :
    after.normalize target = before.normalize target := by
  cases target with
  | group id => rfl
  | channel id =>
    have same := congrArg (Option.map (Channel.faultTarget · id)) (steady.channel id)
    rw [Option.map_map, Option.map_map] at same
    unfold Scheduler.normalize
    exact congrArg (Option.getD · (.channel id)) same

end Steady

/-- Some channels are marked faulted and some are taken out of every active set; the registers
outside of a set keep their words. -/
structure Stops (touched : Set Nat) (marked dropped : Set Nat) (before after : Scheduler) : Prop
    extends Steady before after where
  words : Bus.Spares touched before.machine.bus after.machine.bus
  /-- A channel that is not marked, or not in use, stays as it is. -/
  spared : ∀ {id channel}, before.channels[id]? = some channel →
    id ∉ marked ∨ channel.state = .free → after.channels[id]? = some channel
  /-- A marked channel in use is faulted. -/
  faulted : ∀ {id channel}, id ∈ marked → after.channels[id]? = some channel →
    channel.state ≠ .free → channel.state = .faulted
  /-- A channel that is not dropped stays in the active sets that it is in. -/
  stays : ∀ {runlistId id}, id ∉ dropped →
    after.activeOn runlistId id = before.activeOn runlistId id
  /-- A dropped channel is in no active set. -/
  drops : ∀ {runlistId id}, id ∈ dropped → after.activeOn runlistId id = false

namespace Stops

variable {touched wider marked dropped marked' dropped' : Set Nat}

/-- Nothing happened. -/
theorem refl (touched : Set Nat) (scheduler : Scheduler) :
    Stops touched ∅ ∅ scheduler scheduler where
  toSteady := .refl scheduler
  words := .refl touched _
  spared found _ := found
  faulted mem := absurd mem (Set.notMem_empty _)
  stays _ := rfl
  drops mem := absurd mem (Set.notMem_empty _)

/-- One stop after another. -/
theorem trans (one : Stops touched marked dropped before middle)
    (two : Stops touched marked' dropped' middle after) :
    Stops touched (marked ∪ marked') (dropped ∪ dropped') before after where
  toSteady := one.toSteady.trans two.toSteady
  words := one.words.trans two.words
  spared {id channel} found kept := by
    have first := one.spared found (kept.imp_left fun apart inside => apart (.inl inside))
    exact two.spared first (kept.imp_left fun apart inside => apart (.inr inside))
  faulted {id channel} mem found live := by
    by_cases late : id ∈ marked'
    · exact two.faulted late found live
    · obtain ⟨held, holds, _⟩ := two.toSteady.symm.channel_found found
      have same := two.spared holds (.inl late)
      rw [found, Option.some.injEq] at same
      subst same
      exact one.faulted (mem.resolve_right late) holds live
  stays {runlistId id} apart := by
    rw [two.stays fun inside => apart (.inr inside), one.stays fun inside => apart (.inl inside)]
  drops {runlistId id} mem := by
    by_cases late : id ∈ dropped'
    · exact two.drops late
    · rw [two.stays late]
      exact one.drops (mem.resolve_right late)

/-- A stop after a step that stops nothing. -/
theorem quiet_trans (one : Stops touched ∅ ∅ before middle)
    (two : Stops touched marked dropped middle after) :
    Stops touched marked dropped before after := by
  have both := one.trans two
  rwa [Set.empty_union, Set.empty_union] at both

/-- A stop before a step that stops nothing. -/
theorem trans_quiet (one : Stops touched marked dropped before middle)
    (two : Stops touched ∅ ∅ middle after) : Stops touched marked dropped before after := by
  have both := one.trans two
  rwa [Set.union_empty, Set.union_empty] at both

/-- More registers may change. -/
theorem mono (stops : Stops touched marked dropped before after) (within : touched ⊆ wider) :
    Stops wider marked dropped before after :=
  { stops with words := stops.words.mono within }

/-- Channels that are not in use count as marked as well. -/
theorem mark (stops : Stops touched marked dropped before after) (within : marked ⊆ marked')
    (idle : ∀ id ∈ marked', id ∉ marked → ∀ channel, before.channels[id]? = some channel →
      channel.state = .free) : Stops touched marked' dropped before after where
  toSteady := stops.toSteady
  words := stops.words
  spared {id channel} found kept :=
    stops.spared found (kept.imp_left fun apart inside => apart (within inside))
  faulted {id channel} mem found live := by
    by_cases early : id ∈ marked
    · exact stops.faulted early found live
    · obtain ⟨held, holds, core⟩ := stops.toSteady.symm.channel_found found
      have free := idle id mem early held holds
      exact absurd ((state_eq_free_iff core).mp free) live
  stays := stops.stays
  drops := stops.drops

/-- Channels that are in no active set count as dropped as well. -/
theorem drop (stops : Stops touched marked dropped before after) (within : dropped ⊆ dropped')
    (off : ∀ id ∈ dropped', id ∉ dropped → ∀ runlistId, after.activeOn runlistId id = false) :
    Stops touched marked dropped' before after where
  toSteady := stops.toSteady
  words := stops.words
  spared := stops.spared
  faulted := stops.faulted
  stays apart := stops.stays fun inside => apart (within inside)
  drops {runlistId id} mem := by
    by_cases early : id ∈ dropped
    · exact stops.drops early
    · exact off id mem early runlistId

end Stops

end Scheduler

end GpuSched
