import GpuSched.Proofs.Scheduler.Quiescence

/-!
# Resets that wait

The reset of an engine may be put off until the context that faulted on it is released. A reset that
waits is never forgotten: it waits until the release of a channel runs it. Whether it is run at all
rests on its context. As long as the context belongs to a channel in use, the release of that
channel runs the reset; a context loses its channel in two ways only, when the last channel of a
group leaves the group, and when a status word names a context that nobody is in.
-/
namespace GpuSched

open Operation

namespace Scheduler

variable {scheduler before middle after : Scheduler} {list id : Nat} {target : Target}
  {engine : Engine} {reset : DeferredReset} {α : Type}

/-- A context belongs to a channel in use, whose release runs the resets that wait for it. -/
def Owned (scheduler : Scheduler) (target : Target) : Prop := ∃ id, scheduler.Owns id target

instance (scheduler : Scheduler) (id : Nat) (target : Target) :
    Decidable (scheduler.Owns id target) :=
  inferInstanceAs (Decidable (∃ channel ∈ scheduler.channels[id]?, channel.state ≠ .free ∧
    (target = .channel id ∨ some target = channel.group.map .group)))

instance (scheduler : Scheduler) (target : Target) : Decidable (scheduler.Owned target) :=
  decidable_of_iff (∃ id < scheduler.channels.size, scheduler.Owns id target)
    ⟨fun ⟨id, _, owns⟩ => ⟨id, owns⟩, fun ⟨id, owns⟩ =>
      ⟨id, (Array.getElem?_eq_some_iff.mp owns.choose_spec.1).1, owns⟩⟩

/-- A context is in use: a channel that is bound, or a group in use that lists a bound channel. -/
def InUse (scheduler : Scheduler) : Target → Prop
  | .channel id => ∃ channel : Channel, scheduler.channels[id]? = some channel ∧
      channel.state ≠ .free
  | .group groupId => ∃ group : Group, scheduler.groups[groupId]? = some group ∧
      group.inUse = true ∧ ∃ id ∈ group.members, ∃ channel : Channel,
        scheduler.channels[id]? = some channel ∧ channel.state ≠ .free ∧
          channel.group = some groupId

/-- A context that belongs to a channel in use is in use. -/
theorem Owned.inUse (consistent : scheduler.enrollment.Consistent)
    (owned : scheduler.Owned target) : scheduler.InUse target := by
  obtain ⟨id, channel, found, live, own⟩ := owned
  rcases own with rfl | isGroup
  · exact ⟨channel, found, live⟩
  · obtain ⟨groupId, grouped, rfl⟩ := Option.map_eq_some_iff.mp isGroup.symm
    obtain ⟨roster, holds, inUse, mem, -⟩ := consistent.grouped (seat_of_found found) grouped
    obtain ⟨group, inTable, rfl⟩ := Option.map_eq_some_iff.mp holds
    exact ⟨group, inTable, inUse, id, mem, channel, found, live, grouped⟩

/-- A channel owns its own context while it is in use. -/
theorem owns_channel {other : Nat} : scheduler.Owns id (.channel other) ↔
    other = id ∧ ∃ channel : Channel, scheduler.channels[id]? = some channel ∧
      channel.state ≠ .free := by
  constructor
  · rintro ⟨channel, found, live, own | grouped⟩
    · cases own
      exact ⟨rfl, channel, found, live⟩
    · obtain ⟨group, -, impossible⟩ := Option.map_eq_some_iff.mp grouped.symm
      cases impossible
  · rintro ⟨rfl, channel, found, live⟩
    exact ⟨channel, found, live, .inl rfl⟩

/-- Every reset that waits is that of an engine there is, and a release will run it. -/
def Accounted (scheduler : Scheduler) : Prop :=
  ∀ reset ∈ scheduler.deferred,
    (∃ engine ∈ scheduler.config.engines, engine.id = reset.engine) ∧
      scheduler.Owned reset.target

/-- Where the status word of a graphics engine names a context that is debugged, a channel is in the
context. -/
def Attested (scheduler : Scheduler) : Prop :=
  ∀ engine ∈ scheduler.config.engines, engine.kind = .graphics →
    ∀ target ∈ scheduler.attached,
      (scheduler.statusOf engine.id).faulting.map scheduler.normalize = some target →
        scheduler.Owned target

instance (scheduler : Scheduler) : Decidable scheduler.Attested :=
  inferInstanceAs (Decidable (∀ engine ∈ scheduler.config.engines, engine.kind = .graphics →
    ∀ target ∈ scheduler.attached,
      (scheduler.statusOf engine.id).faulting.map scheduler.normalize = some target →
        scheduler.Owned target))

/-- On hardware that is attested, resets are put off only for contexts that a release reaches. -/
theorem Attested.owned (attested : scheduler.Attested) (mem : engine ∈ scheduler.config.engines)
    (justifies : scheduler.Justifies engine target) : scheduler.Owned target :=
  justifies.named.elim id fun named =>
    attested engine mem justifies.graphics target justifies.attached named.2

/-- No reset is put off, and what belongs to a channel in use goes on to do so. -/
structure Carries (before after : Scheduler) : Prop where
  config : after.config = before.config
  deferred : ∀ reset ∈ after.deferred, reset ∈ before.deferred
  owned : ∀ target, before.Owned target → after.Owned target

instance : IsPreorder Scheduler Carries where
  refl _ := ⟨rfl, fun _ mem => mem, fun _ owned => owned⟩
  trans _ _ _ one two := ⟨two.config.trans one.config,
    fun reset mem => one.deferred reset (two.deferred reset mem),
    fun target => two.owned target ∘ one.owned target⟩

/-- What carries all contexts leaves every reset accounted for. -/
theorem Carries.accounted (carries : Carries before after) (accounted : before.Accounted) :
    after.Accounted := by
  intro reset mem
  obtain ⟨named, owned⟩ := accounted reset (carries.deferred reset mem)
  rw [carries.config]
  exact ⟨named, carries.owned _ owned⟩

/-- The same berths belong to the same channels. -/
theorem carries_of_berths (config : after.config = before.config)
    (deferred : after.deferred = before.deferred) (berths : ∀ id : Nat,
      after.channels[id]?.map Channel.berth = before.channels[id]?.map Channel.berth) :
    Carries before after :=
  ⟨config, fun _ mem => deferred ▸ mem,
    fun _ ⟨id, owns⟩ => ⟨id, (owns_of_berths (berths id)).mpr owns⟩⟩

/-- What idles carries all contexts. -/
theorem Idles.carries (idles : Idles before after) : Carries before after :=
  carries_of_berths idles.config idles.deferred idles.berths

/-- So does what puts no reset off. -/
theorem Defers.carries (defers : Defers true before after) : Carries before after :=
  ⟨defers.config,
    fun reset mem => (defers.putOff reset mem).resolve_right fun ⟨real, _⟩ => (nomatch real),
    fun _ ⟨id, owns⟩ => ⟨id, (owns_of_berths (defers.berths id)).mpr owns⟩⟩

/-- On hardware that is attested every reset that is put off is accounted for. -/
theorem Defers.accounted (defers : Defers false before after) (attested : before.Attested)
    (accounted : before.Accounted) : after.Accounted := by
  have stays : ∀ {target}, before.Owned target → after.Owned target :=
    fun ⟨id, owns⟩ => ⟨id, (owns_of_berths (defers.berths id)).mpr owns⟩
  intro reset mem
  rw [defers.config]
  rcases defers.putOff reset mem with earlier | ⟨-, engine, isEngine, number, justifies⟩
  · exact (accounted reset earlier).imp_right stays
  · exact ⟨⟨engine, isEngine, number⟩, stays (attested.owned isEngine justifies)⟩

/-- What leaves the channels as they are carries all contexts. -/
theorem carries_of_same (config : after.config = before.config)
    (deferred : after.deferred = before.deferred) (channels : after.channels = before.channels) :
    Carries before after :=
  carries_of_berths config deferred fun id => by rw [channels]

/-- A group is changed. -/
theorem carries_changeGroup (id : Nat) (change : Group → Group) :
    Respects Carries (changeGroup id change) :=
  respects_modify fun _ => carries_of_same rfl rfl rfl

/-- A channel is changed: in use it stays so, and in a group it stays in it. -/
theorem carries_changeChannel {change : Channel → Channel}
    (keeps : ∀ channel, scheduler.channels[id]? = some channel → channel.state ≠ .free →
      (change channel).state ≠ .free ∧
        (channel.group = none ∨ (change channel).group = channel.group)) :
    Carries scheduler (changeChannel id change scheduler).2 := by
  refine ⟨rfl, fun _ mem => mem, ?_⟩
  rintro target ⟨other, channel, found, live, own⟩
  by_cases here : id = other
  · subst here
    obtain ⟨stays, group⟩ := keeps channel found live
    refine ⟨id, change channel, ?_, stays, own.imp_right fun grouped => ?_⟩
    · rw [getElem?_changed, if_pos rfl, found]
      rfl
    · rcases group with none | same
      · rw [none] at grouped
        cases grouped
      · rwa [same]
  · refine ⟨other, channel, ?_, live, own⟩
    rwa [getElem?_changed, if_neg here]

/-- A channel is bound in a slot that was free. -/
theorem carries_bind (consistent : scheduler.enrollment.Consistent) (binding : Binding) :
    Carries scheduler (Scheduler.bind binding scheduler).2 := by
  refine related_bind ((reads_runlist _).respects _) fun _ middle run => ?_
  obtain ⟨-, rfl⟩ := of_runlist run
  refine related_bind ?_ fun id taken took => ?_
  · refine Yields.holds ((yields_takeSlot binding.slot).mono ?_ ?_)
    · rintro id _ ⟨-, rfl⟩
      exact carries_of_same rfl rfl rfl
    · rintro _ _ rfl
      exact Std.Refl.refl _
  · obtain ⟨free, rfl⟩ := (yields_takeSlot binding.slot).of_ok took
    obtain ⟨seat, holds, isFree⟩ := consistent.freeChannel.mp free
    refine related_bind (carries_changeChannel fun channel found live => ?_) fun _ bound _ => ?_
    · refine absurd ?_ live
      have same : scheduler.enrollment.channel id = some channel.seat := seat_of_found found
      rw [same, Option.some.injEq] at holds
      subst holds
      exact isFree
    · have binds := (idles_onBus (Device.idles_bindChannel id binding.instancePhysical)).mono
        fun _ _ => Idles.carries
      exact (binds.bind fun _ => respects_pure _) bound

/-- A channel joins a group that was in none. -/
theorem carries_joinGroup (groupId id : Nat) : Respects Carries (joinGroup groupId id) := by
  refine (reads_group groupId).respects.bind fun group scheduler => ?_
  refine Yields.holds ?_
  unfold channelAt
  rw [yields_bind, yields_bind, yields_get]
  cases found : scheduler.channels[id]? with
  | none =>
    unfold entry
    rw [found]
    exact Std.Refl.refl _
  | some channel =>
    rw [yields_entry found, yields_bind]
    refine (reads_runlist channel.runlist scheduler).mono ?_ ?_
    · rintro _ middle rfl
      dsimp only
      split
      · exact Std.Refl.refl _
      · split
        · exact Std.Refl.refl _
        · cases grouped : channel.group with
          | some other => exact Std.Refl.refl _
          | none =>
            unfold changeGroup changeChannel
            rw [yields_bind, yields_modify, yields_modify]
            have first : Carries middle _ := carries_changeGroup groupId
              (fun group => { group with members := group.members ++ [id] }) middle
            refine IsTrans.trans _ _ _ first (carries_changeChannel fun held holds live => ?_)
            have same : held = channel := Option.some.inj (holds.symm.trans found)
            rw [same]
            rw [same] at live
            exact ⟨live, .inl grouped⟩
    · rintro _ _ rfl
      exact Std.Refl.refl _

/-- A group is set up. -/
theorem carries_createGroup (list : Nat) : Respects Carries (createGroup list) := by
  refine (reads_runlist list).respects.bind fun _ => respects_get.bind fun read => ?_
  refine (reads_takeFirst _).respects.bind fun taken => ?_
  have takes : Respects Carries (modify fun scheduler =>
      { scheduler with freeGroups := taken.2 } : Operation Scheduler PUnit) :=
    respects_modify fun _ => carries_of_same rfl rfl rfl
  refine takes.bind fun _ => respects_get.bind fun _ => ?_
  exact (carries_changeGroup taken.1 _).bind fun _ => respects_pure _

/-- A group is given up. -/
theorem carries_destroyGroup (groupId : Nat) : Respects Carries (destroyGroup groupId) := by
  refine (reads_group groupId).respects.bind fun group => ?_
  dsimp only
  split
  · exact respects_refuse_bind _ _
  · exact (carries_changeGroup groupId _).bind fun _ =>
      respects_modify fun _ => carries_of_same rfl rfl rfl

/-- The timeslice of a group is set. -/
theorem carries_setTimeslice (groupId : Nat) (timeslice : Timeslice) :
    Respects Carries (setTimeslice groupId timeslice) :=
  (reads_group groupId).respects.bind fun _ => carries_changeGroup groupId _

/-- Something happens on the side of the hardware. -/
theorem carries_inject (event : Injection) : Respects Carries (Act.inject event) :=
  Act.respects_inject (fun _ _ => carries_of_same rfl rfl rfl) event

/-- A fault is acknowledged. -/
theorem carries_acknowledgeFault (id : Nat) :
    Respects (Within Fit Carries) (acknowledgeFault id) := by
  have removes : ∀ list, Respects (Within Fit Carries) (updateRunlist list (some id) false false) :=
    fun list => (defers_updateRunlist list (some id) false false).mono
      fun _ _ within fit => ⟨(within fit).1, (within fit).2.carries⟩
  have frees : Respects (Within Fit Carries)
      (changeChannel id ({ · with state := .bound, fault := none })) :=
    fun scheduler fit => ⟨fit.same rfl rfl, carries_changeChannel fun _ _ _ => ⟨nofun, .inr rfl⟩⟩
  refine (reads_channelAt id).respects.bind fun channel => ?_
  dsimp only
  split
  · exact respects_refuse_bind _ _
  · exact (removes channel.runlist).bind fun _ => frees

/-- No reset is put off, and what belongs to other channels goes on to do so. -/
structure Parts (id : Nat) (before after : Scheduler) : Prop where
  config : after.config = before.config
  deferred : ∀ reset ∈ after.deferred, reset ∈ before.deferred
  others : ∀ other, other ≠ id → ∀ target, before.Owns other target → after.Owns other target

/-- A channel leaves no more than its group. -/
structure Leaves (id : Nat) (before after : Scheduler) : Prop extends Parts id before after where
  own : before.Owns id (.channel id) → after.Owns id (.channel id)

instance (id : Nat) : IsPreorder Scheduler (Parts id) where
  refl _ := ⟨rfl, fun _ mem => mem, fun _ _ _ owns => owns⟩
  trans _ _ _ one two := ⟨two.config.trans one.config,
    fun reset mem => one.deferred reset (two.deferred reset mem),
    fun other apart target => two.others other apart target ∘ one.others other apart target⟩

instance (id : Nat) : IsPreorder Scheduler (Leaves id) where
  refl _ := ⟨Std.Refl.refl _, fun owns => owns⟩
  trans _ _ _ one two := ⟨IsTrans.trans _ _ _ one.toParts two.toParts, two.own ∘ one.own⟩

/-- Resets for contexts of other channels stay accounted for. -/
theorem Parts.accounted (parts : Parts id before after) (accounted : before.Accounted)
    (others : ∀ reset ∈ after.deferred, ∃ other, other ≠ id ∧ before.Owns other reset.target) :
    after.Accounted := by
  intro reset mem
  obtain ⟨other, apart, owns⟩ := others reset mem
  rw [parts.config]
  exact ⟨(accounted reset (parts.deferred reset mem)).1, other, parts.others other apart _ owns⟩

/-- So do all resets where the group that a channel leaves has another one, or no reset waits for
it. -/
theorem Leaves.accounted (leaves : Leaves id before after) (accounted : before.Accounted)
    (shared : ∀ reset ∈ before.deferred, ∀ groupId, reset.target = .group groupId →
      ∃ other, other ≠ id ∧ before.Owns other reset.target) : after.Accounted := by
  intro reset mem
  have earlier := leaves.deferred reset mem
  obtain ⟨named, other, owns⟩ := accounted reset earlier
  rw [leaves.config]
  refine ⟨named, ?_⟩
  cases isTarget : reset.target with
  | group groupId =>
    obtain ⟨another, apart, shares⟩ := shared reset earlier groupId isTarget
    exact ⟨another, isTarget ▸ leaves.others another apart _ shares⟩
  | channel holder =>
    rw [isTarget] at owns
    obtain ⟨rfl, -⟩ := owns_channel.mp owns
    by_cases here : holder = id
    · subst here
      exact ⟨holder, leaves.own owns⟩
    · exact ⟨holder, leaves.others holder here _ owns⟩

/-- What carries the berths of channels leaves none of them. -/
theorem Defers.leaves (defers : Defers true before after) : Leaves id before after := by
  have stays : ∀ other target, before.Owns other target → after.Owns other target :=
    fun other _ => (owns_of_berths (defers.berths other)).mpr
  exact ⟨⟨defers.config, defers.carries.deferred, fun other _ => stays other⟩, stays id _⟩

/-- What idles leaves no berth. -/
theorem Idles.leaves (idles : Idles before after) : Leaves id before after :=
  idles.tends.defers.leaves

/-- A channel is changed. -/
theorem parts_changeChannel (id : Nat) (change : Channel → Channel) :
    Respects (Parts id) (changeChannel id change) := by
  refine fun scheduler => ⟨rfl, fun _ mem => mem, fun other apart target => ?_⟩
  refine (owns_of_berths ?_).mpr
  rw [getElem?_changed, if_neg apart.symm]

/-- A channel leaves its group. -/
theorem leaves_removeMember (id groupId : Nat) :
    Respects (Leaves id) (removeMember id groupId) := by
  refine (reads_get.bind fun read => reads_entry read.groups groupId).respects.bind fun _ => ?_
  refine Respects.bind (respects_modify fun scheduler => ?_) fun _ scheduler => ?_
  · exact ⟨⟨rfl, fun _ mem => mem, fun _ _ _ owns => owns⟩, fun owns => owns⟩
  · refine ⟨parts_changeChannel id _ scheduler, ?_⟩
    rintro ⟨channel, found, live, -⟩
    refine ⟨{ channel with group := none }, ?_, live, .inl rfl⟩
    rw [getElem?_changed, if_pos rfl, found]
    rfl

/-- A channel leaves its group, and first its runlist. -/
theorem leaves_leaveGroup (id : Nat) : Respects (Within Fit (Leaves id)) (leaveGroup id) := by
  refine (reads_channelAt id).respects.bind fun channel => ?_
  have removes : Respects (Within Fit (Leaves id))
      (updateRunlist channel.runlist (some id) false true) :=
    (defers_updateRunlist channel.runlist (some id) false true).mono
      fun _ _ within fit => ⟨(within fit).1, (within fit).2.leaves⟩
  cases channel.group with
  | none => exact respects_refuse _
  | some groupId =>
    have goes : Respects (Within Fit (Leaves id)) (removeMember id groupId) := fun scheduler fit =>
      ⟨(alters_removeMember id groupId scheduler).toStays.fit fit,
        leaves_removeMember id groupId scheduler⟩
    dsimp only
    split
    · exact removes.bind fun _ => goes
    · exact goes

/-- A channel leaves its group and its slot. -/
theorem parts_leaveSlot (id : Nat) (group : Option Nat) :
    Respects (Parts id) (leaveSlot id group) := by
  have drives : ∀ {operation : Operation Bus Unit}, Respects Bus.Idles operation →
      Respects (Parts id) (onBus operation) :=
    fun idles => (idles_onBus idles).mono fun _ _ idles => idles.leaves.toParts
  have frees : Respects (Parts id) (freeSlot id) := by
    refine (drives (Device.idles_disableChannel id)).bind fun _ => ?_
    refine (drives (Device.idles_unbindChannel id)).bind fun _ => ?_
    refine (parts_changeChannel id Channel.reset).bind fun _ => ?_
    exact respects_modify fun _ => ⟨rfl, fun _ mem => mem, fun _ _ _ owns => owns⟩
  cases group with
  | none => exact frees
  | some groupId =>
    exact ((leaves_removeMember id groupId).mono fun _ _ leaves => leaves.toParts).bind
      fun _ => frees

/-- The release of a channel runs the resets that wait for its contexts, so those that are left
belong to other channels. -/
theorem accounted_releaseChannel (fit : scheduler.Fit) (accounted : scheduler.Accounted)
    (id : Nat) : (releaseChannel id scheduler).2.Accounted := by
  refine Yields.holds ?_
  rw [releaseChannel_eq]
  unfold channelAt
  rw [yields_bind, yields_bind, yields_get]
  cases found : scheduler.channels[id]? with
  | none =>
    unfold entry
    rw [found]
    exact accounted
  | some channel =>
    rw [yields_entry found, yields_bind]
    have removes := respects_iff_yields.mp
      (defers_updateRunlist channel.runlist (some id) false true).disregard scheduler
    refine removes.mono ?_ fun _ _ within => (within fit).2.carries.accounted accounted
    intro _ removed within
    obtain ⟨fitRemoved, defers⟩ := within fit
    have kept : removed.Accounted := defers.carries.accounted accounted
    rw [yields_bind]
    refine (yields_ran fitRemoved id channel.group).mono ?_
      fun _ _ idles => idles.carries.accounted kept
    intro _ ran runs
    have whole : Parts id removed ran := by
      refine ⟨runs.config, fun reset mem => ((runs.left reset).mp mem).1, fun other _ _ => ?_⟩
      exact (owns_of_berths (runs.berths other)).mpr
    have others : ∀ reset ∈ ran.deferred, ∃ other, other ≠ id ∧
        removed.Owns other reset.target := by
      intro reset mem
      obtain ⟨waits, notDue⟩ := (runs.left reset).mp mem
      obtain ⟨-, other, owns⟩ := kept reset waits
      refine ⟨other, fun here => notDue ?_, owns⟩
      subst here
      rw [owns_of_berths (defers.berths other)] at owns
      obtain ⟨held, holds, -, own⟩ := owns
      rw [found, Option.some.injEq] at holds
      exact holds ▸ own
    have released : ∀ after, Parts id ran after → after.Accounted := fun after parts =>
      (IsTrans.trans _ _ _ whole parts : Parts id removed after).accounted kept
        fun reset mem => others reset (parts.deferred reset mem)
    exact (respects_iff_yields.mp (parts_leaveSlot id channel.group) ran).mono
      (fun _ => released) fun _ => released

/-- A reference is given back, and the last one releases the channel. -/
theorem accounted_drop (fit : scheduler.Fit) (accounted : scheduler.Accounted) (id : Nat) :
    (Scheduler.drop id scheduler).2.Accounted := by
  refine Yields.holds ?_
  unfold Scheduler.drop
  rw [yields_bind]
  refine (reads_channelAt id scheduler).mono ?_ ?_
  · rintro channel middle rfl
    rw [yields_bind]
    refine (respects_iff_yields.mp
      (idles_countReferences id fun _ => channel.references - 1) middle).mono ?_
      fun _ _ idles => idles.carries.accounted accounted
    intro _ counted idles
    have kept : counted.Accounted := idles.carries.accounted accounted
    dsimp only
    split
    · exact kept
    · split
      · exact (yields_of_state (accounted_releaseChannel (idles.toStays.fit fit) kept id))
      · exact kept
  · rintro _ _ rfl
    exact accounted

/-- A reset that waits goes on to wait, or its engine is pulsed through reset. -/
structure Answers (before after : Scheduler) : Prop where
  config : after.config = before.config
  grows : before.machine.bus.accesses <:+ after.machine.bus.accesses
  answered : ∀ reset ∈ before.deferred, reset ∈ after.deferred ∨
    ∀ engine ∈ before.config.engines, engine.id = reset.engine →
      Device.Pulses engine.reset before.machine.bus after.machine.bus

instance : IsPreorder Scheduler Answers where
  refl _ := ⟨rfl, List.suffix_rfl, fun _ => .inl⟩
  trans before middle after one two := by
    refine ⟨two.config.trans one.config, one.grows.trans two.grows, fun reset mem => ?_⟩
    rcases one.answered reset mem with waits | pulses
    · refine (two.answered reset waits).imp_right fun pulses engine isEngine number => ?_
      rw [← one.config] at isEngine
      exact (pulses engine isEngine number).earlier one.grows
    · exact .inr fun engine isEngine number => (pulses engine isEngine number).later two.grows

/-- What loses no reset answers every one. -/
theorem Defers.answers {forced : Bool} (defers : Defers forced before after) :
    Answers before after :=
  ⟨defers.config, defers.grows, fun reset mem => .inl (defers.waits reset mem)⟩

/-- Resets that are due are run. -/
theorem Ran.answers {group : Option Nat} (ran : Ran id group before after) :
    Answers before after := by
  refine ⟨ran.config, ran.hardware.grows, fun reset mem => ?_⟩
  by_cases isDue : Due id group reset
  · exact .inr (ran.pulses reset mem isDue)
  · exact .inl ((ran.left reset).mpr ⟨mem, isDue⟩)

/-- What leaves the resets that wait as they are answers every one. -/
theorem answers_of_same (config : after.config = before.config)
    (deferred : after.deferred = before.deferred)
    (grows : before.machine.bus.accesses <:+ after.machine.bus.accesses) : Answers before after :=
  ⟨config, grows, fun _ mem => .inl (deferred ▸ mem)⟩

/-- Recovery answers every reset that waits. -/
theorem recovers_answers : Script.Recovers (Within Fit Answers) :=
  have weakens : ∀ before after, Within Fit (Defers false) before after →
      Within Fit Answers before after :=
    fun _ _ within fit => ⟨(within fit).1, (within fit).2.answers⟩
  { idles := fun before after idles => weakens _ _ (recovers_defers.idles before after idles)
    faults := fun forced => (recovers_defers.faults forced).mono weakens
    removes := fun list id => (recovers_defers.removes list id).mono weakens }

/-- The resets of a context are run when a channel of it is released. -/
theorem answers_runDeferredResets (id : Nat) (group : Option Nat) :
    Respects (Within Fit Answers) (runDeferredResets id group) := by
  intro scheduler fit
  refine ⟨(drives_runDeferredResets id group scheduler).toStays.fit fit, Yields.holds ?_⟩
  refine (yields_ran fit id group).mono (fun _ _ ran => ran.answers) fun _ _ idles => ?_
  exact answers_of_same idles.config idles.deferred idles.hardware.grows

end Scheduler

namespace Session

variable {config : Config} {machine : Machine} {session later : Session} {request : Request}

/-- The last channel leaves a group for which a reset waits. -/
def Orphans (session : Session) : Request → Prop
  | .leave handle => ∃ id, session.handles.find? handle = some id ∧
      ∃ reset ∈ session.scheduler.deferred, ∃ groupId, reset.target = .group groupId ∧
        ∀ other, session.scheduler.Owns other reset.target → other = id
  | _ => False

/-- Requests that change neither who is in use nor the hardware lose no reset that waits. -/
theorem defers_perform (stays : request.alters = false) (asks : ∀ event, request ≠ .inject event) :
    Along (Within Scheduler.Fit (Scheduler.Defers false)) session (perform request session).2 := by
  refine respects_plan Scheduler.recovers_defers (fun α step isFor => ?_) session
  cases step with
  | update list id add wait => exact Scheduler.unforced_updateRunlist list id add wait
  | withdraw list id => exact Scheduler.unforced_updateRunlist list (some id) false true
  | switch engine disabled => exact Scheduler.defers_setEngineDisabled engine disabled
  | resets id group =>
    obtain ⟨handle, rfl⟩ := isFor
    cases stays
  | alter operation alters => exact absurd (isFor.symm.trans stays) (by decide)
  | event injection => exact absurd isFor (asks injection)

/-- Every request answers every reset that waits. -/
theorem answers_perform (request : Request) (session : Session) :
    Along (Within Scheduler.Fit Scheduler.Answers) session (perform request session).2 := by
  have answers : ∀ {operation : Operation Scheduler Unit},
      Respects (Within Scheduler.Fit (Scheduler.Defers false)) operation →
        Respects (Within Scheduler.Fit Scheduler.Answers) operation :=
    fun defers => defers.mono fun _ _ within fit => ⟨(within fit).1, (within fit).2.answers⟩
  refine respects_plan Scheduler.recovers_answers (fun α step isFor => ?_) session
  cases step with
  | update list id add wait => exact answers (Scheduler.unforced_updateRunlist list id add wait)
  | withdraw list id => exact answers (Scheduler.unforced_updateRunlist list (some id) false true)
  | switch engine disabled => exact answers (Scheduler.defers_setEngineDisabled engine disabled)
  | resets id group => exact Scheduler.answers_runDeferredResets id group
  | alter operation alters =>
    exact alters.mono fun _ _ alters fit => ⟨alters.toStays.fit fit,
      Scheduler.answers_of_same alters.config alters.deferred alters.hardware.grows⟩
  | event injection =>
    exact Act.respects_inject (fun _ _ fit =>
      ⟨fit.same rfl rfl, Scheduler.answers_of_same rfl rfl List.suffix_rfl⟩) injection

/-- A request leaves every reset accounted for, if it orphans none and the hardware is attested. -/
theorem accounted_perform (intact : session.scheduler.Intact False)
    (attested : session.scheduler.Attested) (keeps : ¬session.Orphans request)
    (accounted : session.scheduler.Accounted) :
    (perform request session).2.scheduler.Accounted := by
  have fit : session.scheduler.Fit := intact.sound.shaped.fit
  by_cases asks : ∃ event, request = .inject event
  · obtain ⟨event, rfl⟩ := asks
    rw [scheduler_perform]
    change Scheduler.Accounted ((Script.answering _ Reply.done).run session.scheduler).2
    rw [scheduler_answering]
    exact (Scheduler.carries_inject event session.scheduler).accounted accounted
  by_cases stays : request.alters = false
  · exact (defers_perform stays (not_exists.mp asks) fit).2.accounted attested accounted
  · rw [scheduler_perform]
    cases request
    case bind handle binding =>
      change Scheduler.Accounted ((session.planUnlessTaken handle
        (.mapping .id _)).run session.scheduler).2
      unfold planUnlessTaken
      split
      · exact accounted
      · rw [scheduler_mapping]
        exact (Scheduler.carries_bind intact.sound.consistent binding).accounted accounted
    case drop handle =>
      exact holds_planOn (Script.run_drop _ _ _) accounted fun id _ =>
        Scheduler.accounted_drop fit accounted id
    case acknowledge handle =>
      exact holds_planOn (Script.run_acknowledgeFault _) accounted fun id _ =>
        (Scheduler.carries_acknowledgeFault id session.scheduler fit).2.accounted accounted
    case join handle group =>
      exact holds_planOn (fun _ => rfl) accounted fun id _ =>
        (Scheduler.carries_joinGroup group id session.scheduler).accounted accounted
    case leave handle =>
      refine holds_planOn (Script.run_leaveGroup _ _) accounted fun id found => ?_
      refine (Scheduler.leaves_leaveGroup id session.scheduler fit).2.accounted accounted ?_
      intro reset mem groupId isGroup
      by_contra alone
      push Not at alone
      exact keeps ⟨id, found, reset, mem, groupId, isGroup, fun other owns =>
        by_contra fun apart => alone other apart owns⟩
    case createGroup list =>
      change Scheduler.Accounted ((Script.mapping Reply.id _).run session.scheduler).2
      rw [scheduler_mapping]
      exact (Scheduler.carries_createGroup list session.scheduler).accounted accounted
    case destroyGroup group =>
      change Scheduler.Accounted ((Script.answering _ Reply.done).run session.scheduler).2
      rw [scheduler_answering]
      exact (Scheduler.carries_destroyGroup group session.scheduler).accounted accounted
    case timeslice group timeslice =>
      change Scheduler.Accounted ((Script.answering _ Reply.done).run session.scheduler).2
      rw [scheduler_answering]
      exact (Scheduler.carries_setTimeslice group timeslice session.scheduler).accounted accounted
    case attach target => exact accounted
    case detach target => exact accounted
    all_goals exact absurd rfl stays

/-- A request is made on hardware that is attested, and takes the last channel out of no group for
which a reset waits. -/
def Heeds (session : Session) (request : Request) : Prop :=
  session.scheduler.Attested ∧ ¬session.Orphans request

/-- Along a run of such requests every reset that waits is accounted for. -/
theorem Since.accounted {start : Session} (since : Since Heeds start session)
    (intact : start.scheduler.Intact False) (accounted : start.scheduler.Accounted) :
    (session.scheduler.Intact False ∧ session.scheduler.config = start.scheduler.config) ∧
      session.scheduler.Accounted := by
  induction since with
  | start => exact ⟨⟨intact, rfl⟩, accounted⟩
  | performed since request isAllowed ih =>
    obtain ⟨⟨kept, same⟩, whole⟩ := ih
    have next := intact_perform kept False.elim request
    exact ⟨⟨next.1, next.2.trans same⟩, accounted_perform kept isAllowed.1 isAllowed.2 whole⟩

/-- Along every run in which contexts keep a channel, whatever is requested and however it ends,
every reset that waits is for a context in use. Once no channel is in use, none waits, and each
engine whose reset has waited has been pulsed through reset since. -/
theorem deferred_answered {scheduler : Scheduler}
    (created : Scheduler.create config machine = .ok scheduler)
    (earlier : Since Heeds { scheduler } session) (since : Since Heeds session later) :
    (∀ reset ∈ session.scheduler.deferred, session.scheduler.InUse reset.target) ∧
      ((∀ channel ∈ later.scheduler.channels, channel.state = .free) →
        later.scheduler.deferred = [] ∧
          ∀ reset ∈ session.scheduler.deferred, ∃ engine ∈ config.engines,
            engine.id = reset.engine ∧ Device.Pulses engine.reset
              session.scheduler.machine.bus later.scheduler.machine.bus) := by
  obtain ⟨intact, same⟩ : scheduler.Intact False ∧ scheduler.config = config :=
    Scheduler.intact_of_create config.timely_endless created
  have none : scheduler.Accounted := by
    intro reset waits
    rw [Scheduler.deferred_of_create created] at waits
    cases waits
  obtain ⟨⟨kept, config⟩, accounted⟩ := earlier.accounted intact none
  refine ⟨fun reset mem => (accounted reset mem).2.inUse kept.sound.consistent, fun free => ?_⟩
  have empty : later.scheduler.deferred = [] := by
    refine List.eq_nil_iff_forall_not_mem.mpr fun reset mem => ?_
    have whole := ((earlier.trans since).accounted intact none).2
    obtain ⟨-, id, channel, found, live, -⟩ := whole reset mem
    exact live (free channel (Array.mem_of_getElem? found))
  refine ⟨empty, fun reset mem => ?_⟩
  have answers : Along (Within Scheduler.Fit Scheduler.Answers) session later :=
    since.along fun session request _ => answers_perform request session
  obtain ⟨engine, isEngine, number⟩ := (accounted reset mem).1
  refine ⟨engine, ?_, number, ?_⟩
  · rwa [config.trans same] at isEngine
  · rcases (answers kept.sound.shaped.fit).2.answered reset mem with waits | pulses
    · rw [empty] at waits
      cases waits
    · exact pulses engine isEngine number

/-- A channel that is debugged faults, and the reset of the engine waits for its release. -/
theorem answered_by_release : ∃ scheduler session later,
    Scheduler.create debuggedEngines poweredUp = .ok scheduler ∧
      session = performAll { scheduler } faultsDebugged ∧
      later = (perform (.drop 0) session).2 ∧
      session.scheduler.deferred = [⟨0, .channel 0⟩] ∧
      ((∀ reset ∈ session.scheduler.deferred, session.scheduler.InUse reset.target) ∧
        later.scheduler.deferred = [] ∧
          ∀ reset ∈ session.scheduler.deferred, ∃ engine ∈ debuggedEngines.engines,
            engine.id = reset.engine ∧ Device.Pulses engine.reset
              session.scheduler.machine.bus later.scheduler.machine.bus) := by
  have outcome : (Scheduler.create debuggedEngines poweredUp).toOption.map (fun scheduler => decide
      ((∀ step ∈ faultsDebugged.inits.zip faultsDebugged,
          (performAll { scheduler } step.1).scheduler.Attested) ∧
        (performAll { scheduler } faultsDebugged).scheduler.Attested ∧
        (performAll { scheduler } faultsDebugged).scheduler.deferred = [⟨0, .channel 0⟩] ∧
        ∀ channel ∈ (perform (.drop 0)
          (performAll { scheduler } faultsDebugged)).2.scheduler.channels,
            channel.state = .free)) = some true := by decide +kernel
  obtain ⟨scheduler, created, holds⟩ := exists_created outcome
  obtain ⟨each, attested, waits, free⟩ := decide_eq_true_iff.mp holds
  have heeds : ∀ request ∈ faultsDebugged, ∀ session : Session, ¬session.Orphans request := by
    simp [faultsDebugged, Orphans]
  have earlier : Since Heeds { scheduler } (performAll { scheduler } faultsDebugged) :=
    Since.performAll .start fun step mem =>
      ⟨each step mem, heeds step.2 (List.of_mem_zip mem).2 _⟩
  have since : Since Heeds (performAll { scheduler } faultsDebugged)
      (perform (.drop 0) (performAll { scheduler } faultsDebugged)).2 :=
    .performed .start (.drop 0) ⟨attested, id⟩
  obtain ⟨live, rest⟩ := deferred_answered created earlier since
  exact ⟨scheduler, _, _, created, rfl, rfl, waits, live, rest free⟩

/-- The only channel of a group that is debugged leaves the group after a fault, and is released:
the reset that was put off for the group waits although no channel is in use. -/
theorem forgotten_after_leaving : ∃ session,
    Reached debuggedEngines poweredUp (fun _ => True) session ∧
      (∀ channel ∈ session.scheduler.channels, channel.state = .free) ∧
      session.scheduler.deferred = [⟨0, .group 0⟩] := by
  let requests : List Request :=
    [.bind 0 { runlist := 0, instancePhysical := 0x5000 }, .createGroup 0, .join 0 0,
      .update 0 (some 0) true false, .attach (.group 0),
      .inject (.fault 0 { inst := 5, info := MemoryFault.clusterBit }), .service, .leave 0, .drop 0]
  have outcome : (Scheduler.create debuggedEngines poweredUp).toOption.map (fun scheduler => decide
      ((∀ channel ∈ (performAll { scheduler } requests).scheduler.channels,
          channel.state = .free) ∧
        (performAll { scheduler } requests).scheduler.deferred = [⟨0, .group 0⟩])) = some true := by
    decide +kernel
  obtain ⟨scheduler, created, holds⟩ := exists_created outcome
  obtain ⟨free, waits⟩ := decide_eq_true_iff.mp holds
  exact ⟨_, (Reached.created created).performAll fun _ _ => trivial, free, waits⟩

end Session

end GpuSched
