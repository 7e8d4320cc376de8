import GpuSched.Proofs.Scheduler.Quiescence

/-!
# Updates that fail

An update changes the active set first and is handed over and waited for afterwards. A refusal
before the hand-over changes nothing. Where the hardware does not pick the list up even after the
recovery of its engines, the update fails and the buffers do not change places, but the active set
stays as the request has changed it: only the channels that the recovery blames are marked faulted
and taken off, and their groups are counted along. So a failed update that is repeated has nothing
to do.
-/
namespace GpuSched

open Operation

/-- The buffer that the hardware reads and the number of its entries. -/
def Runlist.front (runlist : Runlist) : DmaBuffer × Nat := (runlist.current, runlist.count)

namespace Enrollment

variable {m : Enrollment} {id other runlist : Nat} {roster : Roster}

/-- The counter of a group and its bit on a runlist. -/
def tally (m : Enrollment) (runlist id : Nat) : Option (UInt32 × Bool) :=
  (m.group id).map fun roster => (roster.active, m.activeGroup runlist id)

/-- The counter and the bit after a member was put into the active set or taken out of it. -/
def recount (add : Bool) (tally : UInt32 × Bool) : UInt32 × Bool :=
  if add then (tally.1 + 1, tally.2 || tally.1 = 0) else (tally.1 - 1, tally.2 && tally.1 ≠ 1)

/-- One group is counted. -/
theorem tally_count (found : m.group id = some roster) (add : Bool) :
    (m.count runlist id roster add).tally runlist other =
      if id = other then (m.tally runlist other).map (recount add) else m.tally runlist other := by
  unfold count tally
  by_cases edge : roster.active = if add then 0 else 1
  all_goals
    by_cases own : id = other
    · subst own
      cases add <;> simp_all [recount, setRoster, setActiveGroup]
    · simp [edge, setRoster, setActiveGroup, own, Ne.symm own]

/-- Counting a group on one runlist leaves its bits on the others. -/
theorem activeGroup_count {list : Nat} (apart : list ≠ runlist) (add : Bool) :
    (m.count runlist id roster add).activeGroup list = m.activeGroup list := by
  unfold count
  by_cases edge : roster.active = if add then 0 else 1 <;>
    simp [edge, setRoster, setActiveGroup, apart]

/-- Counting a group keeps its members. -/
theorem members_count (found : m.group id = some roster) (add : Bool) :
    ((m.count runlist id roster add).group other).map Roster.members =
      (m.group other).map Roster.members := by
  unfold count
  by_cases edge : roster.active = if add then 0 else 1
  all_goals
    by_cases own : other = id
    · subst own
      simp [edge, setRoster, setActiveGroup, found]
    · simp [edge, setRoster, setActiveGroup, own]

/-- Counting a group leaves the active sets. -/
theorem active_count (add : Bool) : (m.count runlist id roster add).active = m.active := by
  unfold count
  by_cases edge : roster.active = if add then 0 else 1 <;>
    simp [edge, setRoster, setActiveGroup]

/-- A channel put into an active set or taken out of it, with its group counted along. -/
def enlist (m : Enrollment) (runlist id : Nat) (add : Bool) (seat : Seat) : Enrollment :=
  let moved := (m.setActive runlist id add).setSeat id
    { seat with state := Scheduler.toggledState seat.state add }
  match seat.group with
  | none => moved
  | some groupId =>
      match m.group groupId with
      | none => moved
      | some roster => moved.count runlist groupId roster add

/-- Without a group nothing is counted. -/
theorem enlist_alone {seat : Seat} (alone : seat.group = none) (add : Bool) :
    m.enlist runlist id add seat = (m.setActive runlist id add).setSeat id
      { seat with state := Scheduler.toggledState seat.state add } := by
  unfold enlist
  split
  · rfl
  · simp_all

/-- The group of a member is counted. -/
theorem enlist_grouped {seat : Seat} {groupId : Nat} (grouped : seat.group = some groupId)
    (found : m.group groupId = some roster) (add : Bool) :
    m.enlist runlist id add seat = ((m.setActive runlist id add).setSeat id
      { seat with state := Scheduler.toggledState seat.state add }).count
        runlist groupId roster add := by
  unfold enlist
  split
  · simp_all
  · rename_i other same
    rw [grouped, Option.some.injEq] at same
    subst same
    dsimp only
    rw [found]

/-- Only the group of the channel is counted. -/
theorem tally_enlist {seat : Seat} (add : Bool) (groupId : Nat) :
    (m.enlist runlist id add seat).tally runlist groupId = if seat.group = some groupId then
      (m.tally runlist groupId).map (recount add) else m.tally runlist groupId := by
  unfold enlist
  cases grouped : seat.group with
  | none => rfl
  | some own =>
    dsimp only
    cases found : m.group own with
    | none =>
      have absent : m.tally runlist own = none := by
        unfold tally
        rw [found]
        rfl
      dsimp only
      split
      · rename_i same
        cases same
        rw [absent]
        exact absent
      · rfl
    | some roster =>
      dsimp only
      rw [tally_count (by exact found)]
      simp only [Option.some.injEq]
      rfl

/-- The bits of groups on other runlists stay. -/
theorem activeGroup_enlist {seat : Seat} {list : Nat} (apart : list ≠ runlist) (add : Bool) :
    (m.enlist runlist id add seat).activeGroup list = m.activeGroup list := by
  unfold enlist
  split
  · rfl
  · split
    · rfl
    · exact activeGroup_count apart add

/-- The members of groups stay. -/
theorem members_enlist {seat : Seat} (add : Bool) :
    ((m.enlist runlist id add seat).group other).map Roster.members =
      (m.group other).map Roster.members := by
  unfold enlist
  split
  · rfl
  · split
    · rfl
    · rename_i found
      exact members_count (by exact found) add

/-- Only the bit of the channel changes. -/
theorem active_enlist {seat : Seat} (add : Bool) (list : Nat) :
    (m.enlist runlist id add seat).active list other =
      if list = runlist ∧ other = id then add else m.active list other := by
  unfold enlist
  split
  · rfl
  · split
    · rfl
    · rw [active_count]
      rfl

/-- The members of a group that have left the active set of a runlist. -/
def departed (before after : Enrollment) (runlist groupId : Nat) : Nat :=
  (((before.group groupId).map Roster.members).getD []).countP fun id =>
    before.active runlist id && !after.active runlist id

/-- The active set of one runlist has shrunk, and the groups have been counted along. -/
structure Thins (runlist : Nat) (before after : Enrollment) : Prop where
  members : ∀ groupId, (after.group groupId).map Roster.members =
    (before.group groupId).map Roster.members
  fewer : ∀ {id}, after.active runlist id = true → before.active runlist id = true
  tally : ∀ groupId, after.tally runlist groupId =
    (before.tally runlist groupId).map (recount false)^[before.departed after runlist groupId]
  elsewhere : ∀ list, list ≠ runlist → after.activeGroup list = before.activeGroup list

/-- Where nobody leaves, nobody is counted. -/
theorem Thins.refl (runlist : Nat) (m : Enrollment) : Thins runlist m m := by
  refine ⟨fun _ => rfl, id, fun groupId => ?_, fun _ _ => rfl⟩
  have none : m.departed m runlist groupId = 0 := by
    unfold departed
    simp
  rw [none, Function.iterate_zero, Option.map_id]
  rfl

/-- Who has left a set that shrinks twice has left it the first time or the second time. -/
theorem countP_departed {one two three : Nat → Bool} (fewer : ∀ id, two id = true → one id = true)
    (least : ∀ id, three id = true → two id = true) (ids : List Nat) :
    ids.countP (fun id => one id && !three id) =
      ids.countP (fun id => two id && !three id) + ids.countP (fun id => one id && !two id) := by
  induction ids with
  | nil => rfl
  | cons id rest ih =>
    have split : (if one id && !three id then 1 else 0) =
        (if two id && !three id then 1 else 0) + if one id && !two id then 1 else 0 := by
      have first := fewer id
      have second := least id
      cases hOne : one id <;> cases hTwo : two id <;> cases hThree : three id <;> simp_all
    rw [List.countP_cons, List.countP_cons, List.countP_cons, ih, split]
    omega

/-- A set that shrinks twice. -/
theorem Thins.trans {before middle after : Enrollment} (one : Thins runlist before middle)
    (two : Thins runlist middle after) : Thins runlist before after := by
  refine ⟨fun groupId => (two.members groupId).trans (one.members groupId),
    fun active => one.fewer (two.fewer active), fun groupId => ?_,
    fun list apart => (two.elsewhere list apart).trans (one.elsewhere list apart)⟩
  have count : before.departed after runlist groupId =
      middle.departed after runlist groupId + before.departed middle runlist groupId := by
    unfold departed
    rw [one.members]
    exact countP_departed (fun _ => one.fewer) (fun _ => two.fewer) _
  rw [two.tally, one.tally, Option.map_map, count, Function.iterate_add]

/-- A channel that was in the active set is taken out of it. -/
theorem Consistent.thins (consistent : m.Consistent) {seat : Seat}
    (found : m.channel id = some seat) (was : m.active runlist id = true) :
    Thins runlist m (m.enlist runlist id false seat) := by
  refine ⟨fun _ => members_enlist false, fun {other} active => ?_, fun groupId => ?_,
    fun list apart => activeGroup_enlist apart false⟩
  · rw [active_enlist] at active
    split at active
    · cases active
    · exact active
  · have left : ∀ other, (m.active runlist other &&
        !(m.enlist runlist id false seat).active runlist other) = decide (other = id) := by
      intro other
      rw [active_enlist]
      by_cases own : other = id
      · simp [own, was]
      · simp [own]
    have departed : m.departed (m.enlist runlist id false seat) runlist groupId =
        if seat.group = some groupId then 1 else 0 := by
      unfold Enrollment.departed
      simp only [left]
      split
      · rename_i grouped
        obtain ⟨roster, holds, -, isMember, -⟩ := consistent.grouped found grouped
        rw [holds]
        have once := List.count_eq_one_of_mem (consistent.nodup holds) isMember
        rw [List.count_eq_countP] at once
        simpa [beq_eq_decide] using once
      · rename_i apart
        rw [List.countP_eq_zero]
        intro other mem
        cases holds : m.group groupId with
        | none => simp [holds] at mem
        | some roster =>
          rw [holds] at mem
          obtain ⟨own, present, grouped⟩ := consistent.member holds mem
          simp only [decide_eq_true_eq]
          rintro rfl
          rw [found, Option.some.injEq] at present
          exact apart (present ▸ grouped)
    rw [tally_enlist, departed]
    split
    · rfl
    · rw [Function.iterate_zero, Option.map_id]
      rfl

end Enrollment

namespace Scheduler

variable {exact : Prop} {scheduler before middle after : Scheduler} {id groupId runlistId : Nat}
  {channel : Channel} {group : Group} {runlist : Runlist} {blamed : Set Nat}

/-- The group of a channel is counted after the bit of the channel has changed. -/
theorem yields_countGroup_enlists (sound : scheduler.Sound exact)
    (found : scheduler.channels[id]? = some channel)
    (listed : scheduler.runlists.find? runlistId = some runlist) (add : Bool) :
    (do
      if let some group := channel.group then
        countActive runlistId group add
      return true : Operation Scheduler Bool).Yields
      (scheduler.moved runlistId id add runlist)
      (fun _ after =>
        after.enrollment = scheduler.enrollment.enlist runlistId id add channel.seat)
      fun _ _ => False := by
  have moved : (scheduler.moved runlistId id add runlist).enrollment = _ :=
    enrollment_moved sound found listed
  cases grouped : channel.group with
  | none =>
    dsimp only
    rw [yields_pure, moved, Enrollment.enlist_alone grouped]
    rfl
  | some groupId =>
    obtain ⟨roster, holds, -⟩ := sound.consistent.grouped (seat_of_found found) grouped
    obtain ⟨group, inTable, rfl⟩ := Option.map_eq_some_iff.mp holds
    have listedMoved : (scheduler.moved runlistId id add runlist).runlists.find? runlistId =
        some { runlist with activeChannels := runlist.activeChannels.changing id add } :=
      (Table.find?_insert ..).trans (if_pos rfl)
    have inMoved : (scheduler.moved runlistId id add runlist).groups[groupId]? = some group :=
      inTable
    dsimp only
    rw [yields_bind]
    refine (yields_countActive (shaped_moved sound found listed) inMoved listedMoved add).imp ?_
    rintro _ after ⟨-, counted, -⟩
    rw [yields_pure, counted, moved, Enrollment.enlist_grouped grouped holds]
    rfl

/-- A channel was put into an active set or taken out of it, and its group was counted along. -/
structure Enlisted (runlistId id : Nat) (add : Bool) (before after : Scheduler) : Prop
    extends Toggled runlistId id add before after where
  counts : ∀ {channel}, before.channels[id]? = some channel →
    after.enrollment = before.enrollment.enlist runlistId id add channel.seat

/-- Changing the bit of a channel counts its group along. -/
theorem yields_toggle_enlists (runlistId : Nat) (sound : scheduler.Sound exact)
    (found : scheduler.channels[id]? = some channel) (add : Bool) :
    (toggle runlistId id add channel).Yields scheduler
      (fun changed after => changed = true →
        after.enrollment = scheduler.enrollment.enlist runlistId id add channel.seat)
      fun failure _ => ∀ list, failure ≠ .refused (.runlistUpdateFailed list) := by
  unfold toggle
  rw [yields_bind, yields_runlist]
  cases listed : scheduler.runlists.find? runlistId with
  | none => simp
  | some runlist =>
    have below : id < runlist.activeChannels.size := by
      rw [(sound.shaped.runlist listed).channelSize]
      exact sound.shaped.channel_lt found
    have counts := yields_countGroup_enlists sound found listed add
    dsimp only
    rw [Bitmap.testAndSet_of_lt below, Bitmap.testAndClear_of_lt below]
    simp only [toggledChannel_eq]
    cases add
    all_goals
      simp only [reduceIte, Bool.false_eq_true, yields_bind, yields_lift_ok]
      split
      · intro changed
        cases changed
      · unfold putRunlist changeChannel
        rw [yields_bind, yields_modify, yields_bind, yields_modify]
        exact counts.mono (fun _ _ same _ => same) fun _ _ => False.elim

/-- An active set is changed at one channel, or nothing changes at all. No refusal says that an
update was not picked up. -/
theorem yields_setActive_enlists (runlistId id : Nat) (sound : scheduler.Sound exact) (add : Bool) :
    (setActive runlistId id add).Yields scheduler
      (fun changed after => after.Sound exact ∧
        if changed then Enlisted runlistId id add scheduler after else after = scheduler)
      fun failure after => after = scheduler ∧ (∃ error, failure = .refused error) ∧
        ∀ list, failure ≠ .refused (.runlistUpdateFailed list) := by
  have counts : (setActive runlistId id add).Yields scheduler
      (fun changed after => changed = true → ∀ {channel}, scheduler.channels[id]? = some channel →
        after.enrollment = scheduler.enrollment.enlist runlistId id add channel.seat)
      fun failure _ => ∀ list, failure ≠ .refused (.runlistUpdateFailed list) := by
    rw [setActive_eq, yields_bind, yields_channel]
    cases found : scheduler.channels[id]? with
    | none => simp
    | some channel =>
      have toggles := (yields_toggle_enlists runlistId sound found add).imp
        fun changed after same isChanged (other : Channel) (holds : some channel = some other) =>
          Option.some.inj holds ▸ same isChanged
      dsimp only
      split
      · simp [conflict]
      · cases add with
        | false => exact toggles
        | true =>
          rw [if_pos rfl]
          cases channel.state with
          | free => simp
          | faulted => simp
          | bound => exact toggles
          | active => exact toggles
  refine ((yields_setActive sound add).and counts).mono ?_ ?_
  · rintro changed after ⟨⟨soundAfter, outcome⟩, enrollment⟩
    refine ⟨soundAfter, ?_⟩
    cases changed with
    | true => exact { (show Toggled runlistId id add scheduler after from outcome) with
        counts := enrollment rfl }
    | false => exact outcome.1
  · rintro failure after ⟨⟨same, refused, -⟩, other⟩
    exact ⟨same, refused, other⟩

/-- The groups have been counted along while the active set of one runlist has shrunk. -/
def Thinned (runlistId : Nat) (before after : Scheduler) : Prop :=
  Enrollment.Thins runlistId before.enrollment after.enrollment

instance (runlistId : Nat) : IsPreorder Scheduler (Thinned runlistId) where
  refl scheduler := .refl runlistId scheduler.enrollment
  trans _ _ _ := Enrollment.Thins.trans

/-- Steps beside updates leave every group and every active set. -/
theorem Drives.thinned (drives : Drives before after) : Thinned runlistId before after := by
  have group : after.enrollment.group = before.enrollment.group := by
    unfold enrollment
    rw [drives.groups]
  have active : after.enrollment.active = before.enrollment.active := by
    unfold enrollment activeOn
    rw [drives.runlists]
  have activeGroup : after.enrollment.activeGroup = before.enrollment.activeGroup := by
    unfold enrollment groupActiveOn
    rw [drives.runlists]
  have still := Enrollment.Thins.refl runlistId before.enrollment
  refine ⟨fun _ => by rw [group], fun on => by rwa [← active], fun groupId => ?_,
    fun _ _ => by rw [activeGroup]⟩
  have tally := still.tally groupId
  unfold Enrollment.departed Enrollment.tally at tally ⊢
  rw [group, activeGroup, active]
  exact tally

/-- Where a scheduler stays sound, taking a channel out of an active set thins it. -/
theorem thinned_setActive (id : Nat) :
    Respects (Within (Sound exact) (Thinned runlistId)) (setActive runlistId id false) := by
  intro scheduler sound
  have yields := yields_setActive_enlists runlistId id sound false
  rcases run : setActive runlistId id false scheduler with ⟨failure | changed, after⟩
  · obtain ⟨rfl, -⟩ := yields.of_error run
    exact ⟨sound, Std.Refl.refl _⟩
  · obtain ⟨soundAfter, outcome⟩ := yields.of_ok run
    refine ⟨soundAfter, ?_⟩
    cases changed with
    | false => exact (show after = scheduler from outcome) ▸ Std.Refl.refl (r := Thinned _) _
    | true =>
      have enlisted : Enlisted runlistId id false scheduler after := outcome
      obtain ⟨channel, found, -⟩ := enlisted.own
      unfold Thinned
      rw [enlisted.counts found]
      exact sound.consistent.thins (seat_of_found found) enlisted.was

/-- Steps beside updates that keep a scheduler sound thin no active set. -/
theorem thinned_of_drives {α : Type} {operation : Operation Scheduler α}
    (drives : Respects Drives operation)
    (sound : ∀ scheduler : Scheduler, scheduler.Sound exact → (operation scheduler).2.Sound exact) :
    Respects (Within (Sound exact) (Thinned runlistId)) operation :=
  fun scheduler start => ⟨sound scheduler start, (drives scheduler).thinned⟩

/-- Waiting until a list is picked up thins one active set at most. -/
theorem thinned_awaitPickup (runlistId : Nat) :
    Respects (Within (Sound exact) (Thinned runlistId)) (awaitPickup runlistId) := by
  refine respects_awaitPickup ?_ ?_ fun targets => ?_
  · exact thinned_of_drives (drives_of_idles (idles_waitRunlist runlistId)) fun scheduler =>
      (idles_waitRunlist runlistId scheduler).sound
  · refine thinned_of_drives (drives_recoverRunlistEngines runlistId) fun scheduler sound => ?_
    obtain ⟨_, after, run, soundAfter, -⟩ :=
      (yields_recoverRunlistEngines sound runlistId).exists_ok
    rwa [run]
  · refine respects_forM (fun target => respects_get.bind fun read => ?_) targets
    refine respects_forM (fun id => (reads_channelAt id).respects.bind fun channel => ?_) _
    split
    · exact (thinned_setActive id).disregard
    · exact respects_pure _

/-- The buffers that the hardware reads stay, with the number of their entries. -/
def SameFronts (before after : Scheduler) : Prop :=
  ∀ list, (after.runlists.find? list).map Runlist.front =
    (before.runlists.find? list).map Runlist.front

/-- The hardware reads the same where every buffer stays. -/
theorem SameBuffers.fronts (same : SameBuffers before after) : SameFronts before after := by
  intro list
  have front : Runlist.front = (fun buffers : DmaBuffer × DmaBuffer × Nat =>
      (buffers.1, buffers.2.2)) ∘ Runlist.buffers := rfl
  rw [front, ← Option.map_map, ← Option.map_map, same list]

/-- A list is written and handed over: no membership changes, and the hardware reads the same until
the buffers change places. -/
structure Offered (exact : Prop) (before after : Scheduler) : Prop where
  sound : after.Sound exact
  stops : Stops Device.recoveryRegisters ∅ ∅ before after
  enrollment : after.enrollment = before.enrollment
  fronts : SameFronts before after

/-- A list is written, unless the runlist is suspended. -/
theorem yields_prepareList_offered (sound : scheduler.Sound exact)
    (listed : scheduler.runlists.find? runlistId = some runlist) (suspend : Bool) :
    (if suspend then pure 0 else writeList runlistId).Yields scheduler
      (fun _ after => Offered exact scheduler after) fun _ _ => False := by
  cases suspend with
  | true => exact ⟨sound, .refl _ scheduler, rfl, fun _ => rfl⟩
  | false =>
    refine (yields_writeList sound listed).imp ?_
    rintro _ _ ⟨_, spare, size, _, _, rfl⟩
    obtain ⟨soundAfter, stops⟩ :=
      kept_putRunlist sound listed ((sound.shaped.runlist listed).withSpare size) rfl rfl _
    refine ⟨soundAfter, stops, enrollment_runlist listed rfl rfl, fun list => ?_⟩
    simp only [Table.find?_insert]
    split
    · rename_i own
      rw [own, listed]
      rfl
    · rfl

/-- A list that was written is handed over. -/
theorem yields_submit_offered (offered : Offered exact before middle) (inRange : runlistId < 16)
    (base count : Nat) :
    (onBus (Device.submitRunlist runlistId base count)).Yields middle
      (fun _ after => Offered exact before after) fun _ _ => False := by
  refine (yields_onBus (Device.serves_submitRunlist inRange base count)).imp ?_
  rintro _ after ⟨-, driven⟩
  have stops := offered.stops.quiet_trans (driven.stops.mono Device.listRegisters_subset)
  have soundAfter := driven.sound offered.sound
  obtain ⟨bus, rfl, -⟩ := driven
  exact ⟨soundAfter, stops, offered.enrollment, offered.fronts⟩

/-- A list was handed over and not picked up, not even after recovery: the channels that the engines
of the runlist are blamed for are faulted and off the runlist, their groups are counted along, and
the hardware reads what it read before. -/
structure Overdue (runlistId : Nat) (blamed : Set Nat) (before after : Scheduler) : Prop
    extends Steady before after where
  /-- A channel that is not blamed, or not in use, stays as it is. -/
  spared : ∀ {id channel}, before.channels[id]? = some channel →
    id ∉ blamed ∨ channel.state = .free → after.channels[id]? = some channel
  /-- A blamed channel in use is faulted. -/
  faulted : ∀ {id channel}, id ∈ blamed → after.channels[id]? = some channel →
    channel.state ≠ .free → channel.state = .faulted
  /-- Just the blamed channels have left the active set of the runlist. -/
  active : ∀ list id, after.activeOn list id = true ↔
    before.activeOn list id = true ∧ ¬(list = runlistId ∧ id ∈ blamed)
  /-- The groups are counted along. -/
  groups : Enrollment.Thins runlistId before.enrollment after.enrollment
  fronts : SameFronts before after

/-- An active channel is in use on the runlist. -/
theorem mem_of_active (sound : scheduler.Sound exact)
    (active : scheduler.activeOn runlistId id = true) :
    id ∈ scheduler.inUse ∩ scheduler.onRunlist runlistId := by
  obtain ⟨seat, holds, here, state⟩ := sound.consistent.running active
  obtain ⟨channel, found, rfl⟩ := Option.map_eq_some_iff.mp holds
  refine ⟨⟨channel, found, fun free => ?_⟩, channel, found, here⟩
  change channel.state = .active ∨ channel.state = .faulted at state
  rw [free] at state
  simp at state

/-- What is left where stalled channels were stopped after a list was handed over. -/
theorem Offered.overdue (offered : Offered exact before middle) (sound : before.Sound exact)
    (stops : StopsStalled runlistId middle after) (thins : Thinned runlistId middle after)
    (fronts : SameFronts middle after) :
    Overdue runlistId (before.stalled runlistId) before after := by
  unfold StopsStalled at stops
  rw [stalled_eq sound.shaped offered.stops.toSteady offered.stops.words,
    offered.stops.toSteady.inUse,
    offered.stops.toSteady.onRunlist] at stops
  have whole := offered.stops.quiet_trans stops
  refine { whole.toSteady with
    spared := whole.spared
    faulted := whole.faulted
    active := fun list id => ?_
    groups := ?_
    fronts := fun list => (fronts list).trans (offered.fronts list) }
  · by_cases blamed : id ∈ before.stalled runlistId ∩ before.inUse ∩ before.onRunlist runlistId
    · rw [whole.drops blamed]
      refine iff_of_false Bool.false_ne_true ?_
      rintro ⟨active, elsewhere⟩
      obtain ⟨-, channel, found, here⟩ := mem_of_active sound active
      obtain ⟨⟨stalled, -⟩, other, holds, there⟩ := blamed
      rw [found, Option.some.injEq] at holds
      exact elsewhere ⟨here.symm.trans (holds ▸ there), stalled⟩
    · rw [whole.stays blamed]
      refine ⟨fun active => ⟨active, ?_⟩, And.left⟩
      rintro ⟨rfl, stalled⟩
      obtain ⟨inUse, here⟩ := mem_of_active sound active
      exact blamed ⟨⟨stalled, inUse⟩, here⟩
  · rw [← offered.enrollment]
    exact thins

/-- A hand-over fails only after recovery. -/
theorem yields_submitList_fails (sound : scheduler.Sound exact)
    (listed : scheduler.runlists.contains runlistId = true) (suspend wait : Bool) :
    (submitList runlistId suspend wait).Yields scheduler (fun _ _ => True)
      (fun failure after => failure = .refused (.runlistUpdateFailed runlistId) ∧ wait = true ∧
        after.Sound exact ∧
        Overdue runlistId (scheduler.stalled runlistId) scheduler after) := by
  obtain ⟨runlist, there⟩ := exists_runlist listed
  have inRange : runlistId < 16 := sound.shaped.inRange there
  rw [submitList_eq, yields_bind]
  refine (yields_prepareList_offered sound there suspend).mono ?_ fun _ _ => False.elim
  intro count written offered
  obtain ⟨runlist, found⟩ := exists_runlist (offered.stops.toSteady.listed ▸ listed)
  unfold handOver
  rw [yields_bind, yields_runlist_found found, yields_bind]
  refine (yields_submit_offered offered inRange _ _).mono ?_ fun _ _ => False.elim
  intro _ middle offered
  have swaps : ∀ {last : Scheduler}, last.Sound exact → Steady middle last →
      (swapBuffers runlistId count).Yields last (fun _ _ => True) (fun _ _ => False) := by
    intro last soundLast steady
    rw [← offered.stops.toSteady.listed, ← steady.listed] at listed
    exact (yields_swapBuffers soundLast listed count).imp fun _ _ _ => trivial
  cases wait with
  | false => exact (swaps offered.sound (.refl middle)).mono (fun _ _ => id) fun _ _ => False.elim
  | true =>
    have thins : (awaitPickup runlistId).Yields middle _ _ := yields_of_state
      (thinned_awaitPickup runlistId middle offered.sound).2
    have pauses : Respects (Rests runlistId) (awaitPickup runlistId) := rests_awaitPickup runlistId
    have rests : (awaitPickup runlistId).Yields middle _ _ :=
      yields_of_state (pauses middle).buffers
    change Yields (awaitPickup runlistId >>= fun _ => swapBuffers runlistId count) middle _ _
    rw [yields_bind]
    refine ((yields_awaitPickup_stops offered.sound inRange).and (thins.and rests)).mono ?_ ?_
    · rintro _ picked ⟨⟨soundPicked, quiet | stops⟩, -⟩
      · exact (swaps soundPicked quiet.toSteady).mono (fun _ _ => id) fun _ _ => False.elim
      · exact (swaps soundPicked stops.toSteady).mono (fun _ _ => id) fun _ _ => False.elim
    · rintro failure after ⟨⟨fails, soundAfter, stops⟩, thins, same⟩
      exact ⟨fails, rfl, soundAfter, offered.overdue sound stops thins same.fronts⟩

/-- An active set is as a request asks for, and nothing else has changed. -/
def Asked (runlistId : Nat) (id : Option Nat) (add : Bool) (before asked : Scheduler) : Prop :=
  match id with
  | none => asked = before
  | some id => Enlisted runlistId id add before asked

/-- Putting a channel into an active set or taking it out changes nothing that is blamed. -/
theorem Enlisted.stalled {add : Bool} (enlisted : Enlisted runlistId id add before after)
    (sound : before.Sound exact) (list : Nat) : after.stalled list = before.stalled list := by
  have spares : Bus.Spares ∅ before.machine.bus after.machine.bus := by
    rw [enlisted.machine]
    exact .refl ∅ _
  unfold Scheduler.stalled
  simp only [enlisted.toSteady.config, enlisted.toSteady.targetChannels,
    blamedOr_eq sound.shaped enlisted.toSteady spares fun _ _ => Set.notMem_empty _]

/-- An update is refused before it has changed anything, or after the active set was changed and the
list was not picked up. -/
theorem yields_updateRunlist_fails (runlistId : Nat) (sound : scheduler.Sound exact)
    (id : Option Nat) (add wait : Bool) :
    (updateRunlist runlistId id add wait).Yields scheduler (fun _ _ => True)
      (fun failure after => (∃ error, failure = .refused error) ∧
        (failure ≠ .refused (.runlistUpdateFailed runlistId) → after = scheduler) ∧
        (failure = .refused (.runlistUpdateFailed runlistId) → wait = true ∧ after.Sound exact ∧
          ∃ asked, Asked runlistId id add scheduler asked ∧
            Overdue runlistId (scheduler.stalled runlistId) asked after)) := by
  unfold updateRunlist
  rw [yields_bind, yields_runlist]
  cases found : scheduler.runlists.find? runlistId with
  | none => exact ⟨⟨_, rfl⟩, fun _ => rfl, fun same => by cases same⟩
  | some runlist =>
    have listed := contains_of_find? found
    cases id with
    | none =>
      refine (yields_submitList_fails sound listed (!add) wait).mono (fun _ _ => id) ?_
      rintro failure after ⟨rfl, waits, soundAfter, overdue⟩
      exact ⟨⟨_, rfl⟩, fun other => absurd rfl other, fun _ =>
        ⟨waits, soundAfter, scheduler, rfl, overdue⟩⟩
    | some id =>
      dsimp only
      rw [yields_bind]
      refine (yields_setActive_enlists runlistId _ sound add).mono ?_ ?_
      · rintro changed middle ⟨soundMiddle, outcome⟩
        cases changed with
        | false => trivial
        | true =>
          have enlisted : Enlisted runlistId id add scheduler middle := outcome
          rw [← enlisted.toSteady.listed] at listed
          refine (yields_submitList_fails soundMiddle listed false wait).mono
            (fun _ _ _ => trivial) ?_
          rintro failure after ⟨rfl, waits, soundAfter, overdue⟩
          rw [enlisted.stalled sound] at overdue
          exact ⟨⟨_, rfl⟩, fun other => absurd rfl other, fun _ =>
            ⟨waits, soundAfter, middle, enlisted, overdue⟩⟩
      · rintro failure middle ⟨rfl, refused, early⟩
        exact ⟨refused, fun _ => rfl, fun late => absurd late (early runlistId)⟩

/-- A channel that is in the active set or out of it as asked for is left alone. -/
theorem updateRunlist_idle (sound : scheduler.Sound exact)
    (found : scheduler.channels[id]? = some channel) (here : channel.runlist = runlistId)
    (listed : scheduler.runlists.contains runlistId = true) {add : Bool}
    (ready : add = true → channel.state = .active) (bit : scheduler.activeOn runlistId id = add)
    (wait : Bool) :
    updateRunlist runlistId (some id) add wait scheduler = (.ok (), scheduler) := by
  obtain ⟨runlist, holds⟩ := exists_runlist listed
  have below : id < runlist.activeChannels.size := by
    rw [(sound.shaped.runlist holds).channelSize]
    exact sound.shaped.channel_lt found
  unfold activeOn at bit
  rw [holds] at bit
  have idles : (updateRunlist runlistId (some id) add wait).Yields scheduler
      (fun _ after => after = scheduler) fun _ _ => False := by
    unfold updateRunlist
    rw [yields_bind, yields_runlist_found holds]
    dsimp only
    rw [setActive_eq, yields_bind, yields_bind, yields_channel, found]
    unfold toggle
    cases add with
    | false =>
      simp [here, yields_runlist_found holds, Bitmap.testAndClear_of_lt below, yields_lift_ok, bit]
    | true =>
      simp [here, ready rfl, yields_runlist_found holds, Bitmap.testAndSet_of_lt below,
        yields_lift_ok, bit]
  obtain ⟨_, after, run, rfl⟩ := idles.exists_ok
  exact run

/-- A faulted channel is not put into an active set. -/
theorem updateRunlist_faulted (found : scheduler.channels[id]? = some channel)
    (faulted : channel.state = .faulted) (runlistId : Nat) (wait : Bool) :
    ∃ error, updateRunlist runlistId (some id) true wait scheduler =
        (.error (.refused error), scheduler) ∧
      (scheduler.runlists.contains runlistId = true → channel.runlist = runlistId →
        error = .channelFaulted id) := by
  have refuses : (updateRunlist runlistId (some id) true wait).Yields scheduler (fun _ _ => False)
      fun failure after => after = scheduler ∧ ∃ error, failure = .refused error ∧
        (scheduler.runlists.contains runlistId = true → channel.runlist = runlistId →
          error = .channelFaulted id) := by
    unfold updateRunlist
    rw [yields_bind, yields_runlist]
    cases holds : scheduler.runlists.find? runlistId with
    | none => simp [Table.contains, holds]
    | some runlist =>
      dsimp only
      rw [setActive_eq, yields_bind, yields_bind, yields_channel, found]
      by_cases here : channel.runlist = runlistId <;> simp [here, faulted, conflict]
  unfold Yields at refuses
  rcases run : updateRunlist runlistId (some id) true wait scheduler with ⟨failure | _, after⟩ <;>
    rw [run] at refuses
  · obtain ⟨rfl, error, rfl, reason⟩ := refuses
    exact ⟨error, rfl, reason⟩
  · exact refuses.elim

/-- After an update was not picked up, its repetition finds nothing to do, or a channel that
recovery has marked faulted. -/
theorem Overdue.repeats {add : Bool} (overdue : Overdue runlistId blamed middle after)
    (enlisted : Enlisted runlistId id add before middle) (soundBefore : before.Sound exact)
    (sound : after.Sound exact) (wait : Bool) :
    updateRunlist runlistId (some id) add wait after = (.ok (), after) ∧
        (id ∉ blamed ∨ add = false) ∨
      updateRunlist runlistId (some id) add wait after =
          (.error (.refused (.channelFaulted id)), after) ∧ id ∈ blamed ∧ add = true := by
  obtain ⟨channel, found, live, here, changed⟩ := enlisted.own
  have listed : after.runlists.contains runlistId = true := by
    rw [(enlisted.toSteady.trans overdue.toSteady).listed, ← here]
    exact soundBefore.consistent.listed (seat_of_found found) live
  obtain ⟨held, holds, core⟩ := overdue.toSteady.channel_found changed
  have same : held.runlist = runlistId := (runlist_eq_of_core core).trans here
  have bit := enlisted.active runlistId id
  rw [if_pos ⟨rfl, rfl⟩] at bit
  have kept := overdue.active runlistId id
  rw [bit] at kept
  cases add with
  | false =>
    have off : after.activeOn runlistId id = false := by simpa using kept
    exact .inl ⟨updateRunlist_idle sound holds same listed (by simp) off wait, .inr rfl⟩
  | true =>
    by_cases isBlamed : id ∈ blamed
    · have stillLive : held.state ≠ .free := by
        rw [ne_eq, state_eq_free_iff core]
        simp [toggledState]
      obtain ⟨error, run, reason⟩ := updateRunlist_faulted holds
        (overdue.faulted isBlamed holds stillLive) runlistId wait
      rw [reason listed same] at run
      exact .inr ⟨run, isBlamed, rfl⟩
    · have on : after.activeOn runlistId id = true := by simp [kept, isBlamed]
      have unchanged := overdue.spared changed (.inl isBlamed)
      exact .inl ⟨updateRunlist_idle sound unchanged here listed (fun _ => rfl) on wait,
        .inl isBlamed⟩

end Scheduler

namespace Session

variable {config : Config} {machine : Machine} {usual : Scheduler → Prop}
  {session after : Session} {error : Error} {runlistId : Nat} {id : Option Nat} {add wait : Bool}

/-- In every session that is reached, a failed update other than one that was not picked up leaves
everything as it was. One that was not picked up leaves the active set, the states of the channels
and the counters of the groups as the request asks for, but for the channels that recovery has
marked faulted and taken off; the hardware reads the buffer that it has read before. So the same
update has nothing to do when it is repeated, or it is refused for a fault. -/
theorem failed_update_kept (reached : Reached config machine usual session)
    (fails : perform (.update runlistId id add wait) session =
      (.error (.refused error), after)) :
    (error ≠ .runlistUpdateFailed runlistId → after = session) ∧
    (error = .runlistUpdateFailed runlistId → wait = true ∧ after.handles = session.handles ∧
      (∃ asked, Scheduler.Asked runlistId id add session.scheduler asked ∧
        Scheduler.Overdue runlistId (session.scheduler.stalled runlistId) asked
          after.scheduler) ∧
      ∀ channel, id = some channel → ∀ again,
        perform (.update runlistId id add again) after = (.ok .done, after) ∧
            (channel ∉ session.scheduler.stalled runlistId ∨ add = false) ∨
          perform (.update runlistId id add again) after =
              (.error (.refused (.channelFaulted channel)), after) ∧
            channel ∈ session.scheduler.stalled runlistId ∧ add = true) := by
  have sound := ((reached.intact False fun _ _ _ => False.elim).1).sound
  have whole (again : Bool) (session : Session) :
      perform (.update runlistId id add again) session = _ :=
    call_done (Scheduler.updateRunlist runlistId id add again) session
  have yields := Scheduler.yields_updateRunlist_fails runlistId sound id add wait
  rw [whole] at fails
  rcases run : Scheduler.updateRunlist runlistId id add wait session.scheduler with
    ⟨failure | _, changed⟩
  · obtain ⟨-, early, late⟩ := yields.of_error run
    rw [run] at fails
    obtain ⟨same, rfl⟩ := Prod.mk.inj fails
    cases same
    refine ⟨fun other => ?_, fun own => ?_⟩
    · rw [early (by simpa using other)]
    · subst own
      obtain ⟨waits, soundAfter, asked, asks, overdue⟩ := late rfl
      refine ⟨waits, rfl, ⟨asked, asks, overdue⟩, ?_⟩
      rintro channel rfl again
      rw [whole]
      rcases overdue.repeats asks sound soundAfter again with ⟨runs, idle⟩ | ⟨runs, blamed⟩
      · exact .inl ⟨by rw [runs]; rfl, idle⟩
      · exact .inr ⟨by rw [runs]; rfl, blamed⟩
  · rw [run] at fails
    cases fails

/-- Two channels on a runlist that hangs: one is in a group, the other is active and runs. -/
def hangsForever : List Request :=
  [.bind 0 { runlist := 0 }, .createGroup 0, .join 0 0, .bind 1 { runlist := 0 },
    .update 0 (some 1) true true, .inject (.engineStatus 0 (.running (.channel 1))),
    .inject (.hangRunlist 0 .forever)]

/-- The channel that runs is marked faulted and taken off, and the update of the other one fails. -/
theorem failed_update_kept_of_hang : ∃ session after,
    Reached oneEngine poweredUp (fun _ => True) session ∧
      perform (.update 0 (some 0) true true) session =
        (.error (.refused (.runlistUpdateFailed 0)), after) ∧
      session.scheduler.activeOn 0 1 = true ∧ after.scheduler.activeOn 0 1 = false ∧
      ∃ asked, Scheduler.Asked 0 (some 0) true session.scheduler asked ∧
        Scheduler.Overdue 0 (session.scheduler.stalled 0) asked after.scheduler := by
  let update : Request := .update 0 (some 0) true true
  have outcome : (Scheduler.create oneEngine poweredUp).toOption.map (fun scheduler => decide
      ((perform update (performAll { scheduler } hangsForever)).1 =
          .error (.refused (.runlistUpdateFailed 0)) ∧
        (performAll { scheduler } hangsForever).scheduler.activeOn 0 1 = true ∧
        (perform update (performAll { scheduler } hangsForever)).2.scheduler.activeOn 0 1 =
          false)) = some true := by decide +kernel
  obtain ⟨scheduler, created, holds⟩ := exists_created outcome
  obtain ⟨fails, on, off⟩ := decide_eq_true_iff.mp holds
  have reached :
      Reached oneEngine poweredUp (fun _ => True) (performAll { scheduler } hangsForever) :=
    (Reached.created created).performAll fun _ _ => trivial
  rcases run : perform update (performAll { scheduler } hangsForever) with ⟨result, after⟩
  rw [run] at fails off
  subst fails
  obtain ⟨-, -, left, -⟩ := (failed_update_kept reached run).2 rfl
  exact ⟨_, after, reached, run, on, off, left⟩

/-- A channel is active after the update that should have made it active has failed, its group
counts it, and the same update answers at once that all is done. -/
theorem active_after_failure : ∃ session after,
    Reached oneEngine poweredUp (fun _ => True) session ∧
      perform (.update 0 (some 0) true true) session =
        (.error (.refused (.runlistUpdateFailed 0)), after) ∧
      session.scheduler.activeOn 0 0 = false ∧ after.scheduler.activeOn 0 0 = true ∧
      session.scheduler.channels[0]?.map (·.state) = some .bound ∧
      after.scheduler.channels[0]?.map (·.state) = some .active ∧
      session.scheduler.enrollment.tally 0 0 = some (0, false) ∧
      after.scheduler.enrollment.tally 0 0 = some (1, true) ∧
      (perform (.update 0 (some 0) true true) after).1 = .ok .done ∧
      (perform (.update 0 (some 0) true true) after).2.scheduler.machine.bus.hardware.submissions =
        after.scheduler.machine.bus.hardware.submissions := by
  let update : Request := .update 0 (some 0) true true
  have outcome : (Scheduler.create oneEngine poweredUp).toOption.map (fun scheduler => decide
      ((perform update (performAll { scheduler } hangsForever)).1 =
          .error (.refused (.runlistUpdateFailed 0)) ∧
        (performAll { scheduler } hangsForever).scheduler.activeOn 0 0 = false ∧
        (perform update (performAll { scheduler } hangsForever)).2.scheduler.activeOn 0 0 = true ∧
        (performAll { scheduler } hangsForever).scheduler.channels[0]?.map (·.state) =
          some .bound ∧
        (perform update (performAll { scheduler } hangsForever)).2.scheduler.channels[0]?.map
          (·.state) = some .active ∧
        (performAll { scheduler } hangsForever).scheduler.enrollment.tally 0 0 = some (0, false) ∧
        (perform update (performAll { scheduler } hangsForever)).2.scheduler.enrollment.tally 0 0 =
          some (1, true) ∧
        (perform update (perform update (performAll { scheduler } hangsForever)).2).1 =
          .ok .done ∧
        (perform update (perform update (performAll { scheduler }
          hangsForever)).2).2.scheduler.machine.bus.hardware.submissions =
            (perform update (performAll { scheduler }
              hangsForever)).2.scheduler.machine.bus.hardware.submissions)) = some true := by
    decide +kernel
  obtain ⟨scheduler, created, holds⟩ := exists_created outcome
  obtain ⟨fails, off, on, bound, active, before, counted, again, quiet⟩ :=
    decide_eq_true_iff.mp holds
  have reached :
      Reached oneEngine poweredUp (fun _ => True) (performAll { scheduler } hangsForever) :=
    (Reached.created created).performAll fun _ _ => trivial
  rcases run : perform update (performAll { scheduler } hangsForever) with ⟨result, after⟩
  rw [run] at fails on active counted again quiet
  subst fails
  exact ⟨_, after, reached, run, off, on, bound, active, before, counted, again, quiet⟩

end Session

end GpuSched
