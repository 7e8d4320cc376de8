import GpuSched.Proofs.Scheduler.Frames
import GpuSched.Scheduler.Update

/-!
# Changes of an active set

Adding a channel to the active set of its runlist or taking it away changes the bit of the channel,
its state, and the counter and the bit of its group. The memberships stay consistent and counted. A
refusal changes nothing, and a channel that cannot be taken out of an active set is not in it.
-/
namespace GpuSched

open Operation

/-- What a runlist shares with the hardware. -/
def Runlist.buffers (runlist : Runlist) : DmaBuffer × DmaBuffer × Nat :=
  (runlist.current, runlist.spare, runlist.count)

namespace Scheduler

variable {exact : Prop} {scheduler before middle after : Scheduler} {id runlistId groupId : Nat}
  {channel : Channel} {group : Group} {runlist next : Runlist}

section Lookups

variable {bad : Failure → Scheduler → Prop}

/-- A channel that is named is answered if it is there. -/
theorem yields_channel {good : Channel → Scheduler → Prop} :
    (Scheduler.channel id).Yields scheduler good bad ↔
      match scheduler.channels[id]? with
      | some channel => good channel scheduler
      | none => bad (.refused (.invalidChannel id)) scheduler := by
  unfold Scheduler.channel
  rw [yields_bind, yields_get]
  cases scheduler.channels[id]? <;> exact Iff.rfl

/-- A group that is named is answered if it is in use. -/
theorem yields_group {good : Group → Scheduler → Prop} :
    (Scheduler.group id).Yields scheduler good bad ↔
      match scheduler.groups[id]? with
      | some group =>
          if group.inUse then good group scheduler
          else bad (.refused (.invalidGroup id)) scheduler
      | none => bad (.refused (.invalidGroup id)) scheduler := by
  unfold Scheduler.group
  rw [yields_bind, yields_get]
  cases scheduler.groups[id]? with
  | none => exact Iff.rfl
  | some group => cases inUse : group.inUse <;> simp [inUse]

/-- A runlist that is named is answered if it is there. -/
theorem yields_runlist {good : Runlist → Scheduler → Prop} :
    (Scheduler.runlist id).Yields scheduler good bad ↔
      match scheduler.runlists.find? id with
      | some runlist => good runlist scheduler
      | none => bad (.refused (.invalidRunlist id)) scheduler := by
  unfold Scheduler.runlist
  rw [yields_bind, yields_get]
  cases scheduler.runlists.find? id <;> exact Iff.rfl

/-- A runlist that is there is answered. -/
theorem yields_runlist_found {good : Runlist → Scheduler → Prop}
    (found : scheduler.runlists.find? id = some runlist) :
    (Scheduler.runlist id).Yields scheduler good bad ↔ good runlist scheduler := by
  rw [yields_runlist, found]

end Lookups

/-- Every runlist keeps its buffers. -/
def SameBuffers (before after : Scheduler) : Prop :=
  ∀ list, (after.runlists.find? list).map Runlist.buffers =
    (before.runlists.find? list).map Runlist.buffers

/-- Two steps keep the buffers that each of them keeps. -/
theorem SameBuffers.trans (one : SameBuffers before middle) (two : SameBuffers middle after) :
    SameBuffers before after :=
  fun list => (two list).trans (one list)

/-- Another runlist with the same buffers. -/
theorem sameBuffers_insert (found : scheduler.runlists.find? runlistId = some runlist)
    (same : next.buffers = runlist.buffers) :
    SameBuffers scheduler
      { scheduler with runlists := scheduler.runlists.insert runlistId next } := by
  intro list
  simp only [Table.find?_insert]
  by_cases own : list = runlistId
  · rw [if_pos own, own, found, Option.map_some, same, Option.map_some]
  · rw [if_neg own]

/-- Another entry for a channel, with the same core. -/
theorem steady_changeChannel {change : Channel → Channel}
    (same : ∀ channel, scheduler.channels[id]? = some channel →
      (change channel).core = channel.core) :
    Steady scheduler { scheduler with channels := scheduler.channels.modify id change } := by
  refine ⟨rfl, rfl, rfl, rfl, fun other => ?_, fun _ => rfl⟩
  rw [Array.getElem?_modify]
  split
  · rename_i own
    subst own
    cases found : scheduler.channels[id]? with
    | none => rfl
    | some channel => simp [same channel found]
  · rfl

/-- Another entry for a group, with the same core. -/
theorem steady_changeGroup {change : Group → Group}
    (same : ∀ group : Group, (change group).core = group.core) :
    Steady scheduler { scheduler with groups := scheduler.groups.modify id change } := by
  refine ⟨rfl, rfl, rfl, rfl, fun _ => rfl, fun other => ?_⟩
  rw [Array.getElem?_modify]
  split
  · rename_i own
    subst own
    cases found : scheduler.groups[id]? with
    | none => rfl
    | some group => simp [same group]
  · rfl

/-- The counter and the bit of a group are changed, nothing else. -/
structure Recounted (before after : Scheduler) : Prop extends Steady before after where
  machine : after.machine = before.machine
  channels : after.channels = before.channels
  active : after.activeOn = before.activeOn
  buffers : SameBuffers before after

/-- A group whose runlist is there can be counted. -/
theorem yields_countActive (shaped : scheduler.Shaped)
    (found : scheduler.groups[groupId]? = some group)
    (listed : scheduler.runlists.find? runlistId = some runlist) (add : Bool) :
    (countActive runlistId groupId add).Yields scheduler
      (fun _ after => after.Shaped ∧
        after.enrollment = scheduler.enrollment.count runlistId groupId group.roster add ∧
        Recounted scheduler after)
      fun _ _ => False := by
  let change : Group → Group := fun held =>
    { held with active := if add then group.active + 1 else group.active - 1 }
  let counted : Scheduler :=
    { scheduler with groups := scheduler.groups.modify groupId change }
  have shapedCounted : counted.Shaped := shaped.changeGroup change
  have enrollment : counted.enrollment =
      scheduler.enrollment.setRoster groupId (change group).roster :=
    enrollment_group found change
  have steady : Steady scheduler counted := steady_changeGroup fun _ => rfl
  have fits := shaped.runlist listed
  have below : groupId < runlist.activeGroups.size := by
    rw [fits.groupSize]
    exact shaped.group_lt found
  let next : Runlist :=
    { runlist with activeGroups := runlist.activeGroups.changing groupId add }
  have fitsNext : next.Shaped scheduler.config.channelCount scheduler.config.groupCount :=
    { fits with
      groupSize := (Bitmap.size_changing add).trans fits.groupSize
      groupsBounded := fits.groupsBounded.changing below add }
  unfold countActive groupAt changeGroup
  simp only [yields_bind, yields_get, yields_entry found, yields_modify]
  change Yields _ counted _ _
  have listedCounted : counted.runlists.find? runlistId = some runlist := listed
  by_cases edge : group.active = if add then 0 else 1
  · rw [if_pos edge, yields_bind, yields_runlist_found listedCounted]
    let marked : Scheduler :=
      { counted with runlists := counted.runlists.insert runlistId next }
    have marks : marked.enrollment = counted.enrollment.setActiveGroup runlistId groupId add :=
      enrollment_activeGroups listedCounted below add
    have reached : marked.Shaped ∧
        marked.enrollment = scheduler.enrollment.count runlistId groupId group.roster add ∧
        Recounted scheduler marked := by
      refine ⟨shapedCounted.putRunlist listed fitsNext, ?_, ?_⟩
      · rw [marks, enrollment]
        unfold Enrollment.count
        exact (if_pos edge).symm
      · exact { steady with
          listed := contains_insert listed
          machine := rfl
          channels := rfl
          active := congrArg Enrollment.active marks
          buffers := sameBuffers_insert listed rfl }
    cases add with
    | true =>
      rw [if_pos rfl, Bitmap.testAndSet_of_lt below, yields_bind, yields_lift_ok]
      exact reached
    | false =>
      rw [if_neg (by decide), Bitmap.testAndClear_of_lt below, yields_bind, yields_lift_ok]
      exact reached
  · rw [if_neg edge, yields_pure]
    have unmarked : Recounted scheduler counted :=
      { steady with machine := rfl, channels := rfl, active := rfl, buffers := fun _ => rfl }
    refine ⟨shapedCounted, ?_, unmarked⟩
    unfold Enrollment.count
    exact enrollment.trans (if_neg edge).symm

/-- The state of a channel after it was added to its active set or taken away. -/
def toggledState (state : ChannelState) (add : Bool) : ChannelState :=
  if add then .active else if state = .active then .bound else state

/-- One channel is added to the active set of its runlist or taken away. -/
structure Toggled (runlistId id : Nat) (add : Bool) (before after : Scheduler) : Prop
    extends Steady before after where
  machine : after.machine = before.machine
  buffers : SameBuffers before after
  /-- The channel was on the other side before. -/
  was : before.activeOn runlistId id = !add
  own : ∃ channel, before.channels[id]? = some channel ∧ channel.state ≠ .free ∧
    channel.runlist = runlistId ∧
    after.channels[id]? = some { channel with state := toggledState channel.state add }
  others : ∀ {other}, other ≠ id → after.channels[other]? = before.channels[other]?
  active : ∀ list other, after.activeOn list other =
    if list = runlistId ∧ other = id then add else before.activeOn list other

/-- What is left of a change of an active set once the channel has been checked. -/
def toggle (runlistId id : Nat) (add : Bool) (channel : Channel) : Operation Scheduler Bool := do
  let runlist ← Scheduler.runlist runlistId
  let (before, activeChannels) ←
    if add then runlist.activeChannels.testAndSet id
    else runlist.activeChannels.testAndClear id
  if before = add then
    return false
  putRunlist runlistId { runlist with activeChannels }
  changeChannel id fun channel =>
    if add then { channel with state := .active }
    else if channel.state = .active then { channel with state := .bound }
    else channel
  if let some group := channel.group then
    countActive runlistId group add
  return true

/-- A change of an active set checks the channel first. -/
theorem setActive_eq (runlistId id : Nat) (add : Bool) :
    setActive runlistId id add = (do
      let channel ← Scheduler.channel id
      if channel.runlist ≠ runlistId && channel.state ≠ .free then
        conflict (.otherRunlist id channel.runlist runlistId)
      if add then
        match channel.state with
        | .free => Operation.refuse (.invalidChannel id)
        | .faulted => Operation.refuse (.channelFaulted id)
        | .bound | .active => pure ()
      toggle runlistId id add channel) := rfl

/-- The channel after its bit was changed. -/
def toggledChannel (add : Bool) (channel : Channel) : Channel :=
  { channel with state := toggledState channel.state add }

/-- The code that changes the state of a channel is `toggledChannel`. -/
theorem toggledChannel_eq (add : Bool) (channel : Channel) :
    (if add then { channel with state := .active }
      else if channel.state = .active then { channel with state := .bound }
      else channel) = toggledChannel add channel := by
  unfold toggledChannel toggledState
  cases add with
  | true => rfl
  | false =>
    by_cases active : channel.state = .active
    · simp [active]
    · simp [active]

/-- Changing the bit of a channel keeps its core while it is in use. -/
theorem core_toggledChannel {add : Bool} (live : channel.state ≠ .free) :
    (toggledChannel add channel).core = channel.core := by
  have still : toggledState channel.state add ≠ .free := by
    unfold toggledState
    split
    · decide
    · split
      · decide
      · exact live
  simp [Channel.core, toggledChannel, still, live]

/-- A channel whose bit is to be changed is on the runlist, and bound before it is added. -/
theorem toggle_ready (sound : scheduler.Sound exact)
    (found : scheduler.channels[id]? = some channel)
    (home : channel.runlist = runlistId ∨ channel.state = .free) {add : Bool}
    (ready : add = true → channel.state = .bound ∨ channel.state = .active)
    (was : scheduler.activeOn runlistId id = !add) :
    channel.runlist = runlistId ∧
      (add = true ∧ channel.state = .bound ∨
        add = false ∧ (channel.state = .active ∨ channel.state = .faulted)) := by
  have seat := seat_of_found found
  cases add with
  | true =>
    rcases ready rfl with bound | active
    · exact ⟨home.resolve_right (by simp [bound]), .inl ⟨rfl, bound⟩⟩
    · have here := home.resolve_right (by simp [active])
      have on := sound.consistent.active seat active
      subst here
      exact absurd (on.symm.trans was) (by decide)
  | false =>
    obtain ⟨other, same, on, state⟩ := sound.consistent.running was
    rw [seat, Option.some.injEq] at same
    subst same
    exact ⟨on, .inr ⟨rfl, state⟩⟩

/-- The bit and the state of a channel changed, before its group is counted. -/
def moved (scheduler : Scheduler) (runlistId id : Nat) (add : Bool) (runlist : Runlist) :
    Scheduler :=
  { scheduler with
    runlists := scheduler.runlists.insert runlistId
      { runlist with activeChannels := runlist.activeChannels.changing id add }
    channels := scheduler.channels.modify id (toggledChannel add) }

section Moved

variable {add : Bool} (sound : scheduler.Sound exact)
  (found : scheduler.channels[id]? = some channel)
  (listed : scheduler.runlists.find? runlistId = some runlist)

include sound found listed

/-- The memberships after the bit and the state of a channel have changed. -/
theorem enrollment_moved :
    (scheduler.moved runlistId id add runlist).enrollment =
      (scheduler.enrollment.setActive runlistId id add).setSeat id
        (toggledChannel add channel).seat := by
  have below : id < runlist.activeChannels.size := by
    rw [(sound.shaped.runlist listed).channelSize]
    exact sound.shaped.channel_lt found
  let replaced : Scheduler :=
    { scheduler with
      runlists := scheduler.runlists.insert runlistId
        { runlist with activeChannels := runlist.activeChannels.changing id add } }
  have holds : replaced.channels[id]? = some channel := found
  rw [← enrollment_activeChannels listed below add]
  exact enrollment_channel holds (toggledChannel add)

/-- The tables keep their sizes. -/
theorem shaped_moved : (scheduler.moved runlistId id add runlist).Shaped := by
  have fits := sound.shaped.runlist listed
  have below : id < runlist.activeChannels.size := by
    rw [fits.channelSize]
    exact sound.shaped.channel_lt found
  refine (sound.shaped.putRunlist listed ?_).changeChannel _
  exact { fits with
    channelSize := (Bitmap.size_changing add).trans fits.channelSize
    channelsBounded := fits.channelsBounded.changing below add }

/-- The bit of one channel has changed. -/
theorem toggled_moved (here : channel.runlist = runlistId) (live : channel.state ≠ .free)
    (was : scheduler.activeOn runlistId id = !add) :
    Toggled runlistId id add scheduler (scheduler.moved runlistId id add runlist) := by
  have same : ∀ held, scheduler.channels[id]? = some held →
      (toggledChannel add held).core = held.core := by
    intro held holds
    rw [found, Option.some.injEq] at holds
    exact holds ▸ core_toggledChannel live
  have steady : Steady scheduler (scheduler.moved runlistId id add runlist) :=
    { steady_changeChannel same with listed := contains_insert listed }
  refine { steady with
    machine := rfl
    buffers := sameBuffers_insert listed rfl
    was
    own := ⟨channel, found, live, here, ?_⟩
    others := fun apart => ?_
    active := ?_ }
  · unfold moved
    rw [Array.getElem?_modify, if_pos rfl, found]
    rfl
  · unfold moved
    rw [Array.getElem?_modify, if_neg (Ne.symm apart)]
  · intro list other
    exact congrFun (congrFun (congrArg Enrollment.active
      (enrollment_moved sound found listed)) list) other

end Moved

/-- Counting the group of a channel does not matter to the others. -/
theorem Toggled.recounted {add : Bool} (toggled : Toggled runlistId id add before middle)
    (recounted : Recounted middle after) : Toggled runlistId id add before after := by
  refine { toggled.toSteady.trans recounted.toSteady with
    machine := recounted.machine.trans toggled.machine
    buffers := toggled.buffers.trans recounted.buffers
    was := toggled.was
    own := ?_
    others := fun apart => ?_
    active := ?_ }
  · rw [recounted.channels]
    exact toggled.own
  · rw [recounted.channels]
    exact toggled.others apart
  · rw [recounted.active]
    exact toggled.active

/-- The group of a channel is counted after the bit of the channel has changed. -/
theorem yields_countGroup (sound : scheduler.Sound exact)
    (found : scheduler.channels[id]? = some channel)
    (listed : scheduler.runlists.find? runlistId = some runlist)
    (home : channel.runlist = runlistId ∨ channel.state = .free) {add : Bool}
    (ready : add = true → channel.state = .bound ∨ channel.state = .active)
    (was : scheduler.activeOn runlistId id = !add) :
    (do
      if let some group := channel.group then
        countActive runlistId group add
      return true : Operation Scheduler Bool).Yields
      (scheduler.moved runlistId id add runlist)
      (fun changed after => after.Sound exact ∧ changed = true ∧
        Toggled runlistId id add scheduler after)
      fun _ _ => False := by
  obtain ⟨here, states⟩ := toggle_ready sound found home ready was
  have live : channel.state ≠ .free := by
    rcases states with ⟨_, state⟩ | ⟨_, state | state⟩ <;> simp [state]
  have toggled := toggled_moved sound found listed here live was
  have shaped : (scheduler.moved runlistId id add runlist).Shaped :=
    shaped_moved sound found listed
  have enrollment : (scheduler.moved runlistId id add runlist).enrollment =
      (scheduler.enrollment.setActive runlistId id add).setSeat id
        (toggledChannel add channel).seat := enrollment_moved sound found listed
  have seat := seat_of_found found
  have consistent : (scheduler.moved runlistId id add runlist).enrollment.Consistent := by
    rw [enrollment]
    subst here
    rcases states with ⟨rfl, bound⟩ | ⟨rfl, idle⟩
    · exact sound.consistent.enlist seat bound
    · have state : toggledState channel.state false = .bound ∧ channel.state = .active ∨
          toggledState channel.state false = .faulted ∧ channel.state = .faulted := by
        rcases idle with active | faulted
        · exact .inl ⟨by rw [active]; rfl, active⟩
        · exact .inr ⟨by rw [faulted]; rfl, faulted⟩
      exact sound.consistent.delist seat state
  cases grouped : channel.group with
  | none =>
    refine ⟨⟨shaped, consistent, fun holds => ?_⟩, rfl, toggled⟩
    rw [enrollment]
    exact ((sound.counted holds).setActive sound.consistent seat grouped add).setSeat
  | some groupId =>
    obtain ⟨roster, holds, _⟩ := sound.consistent.grouped seat grouped
    obtain ⟨group, inTable, rfl⟩ := Option.map_eq_some_iff.mp holds
    dsimp only
    rw [yields_bind]
    have listedMoved : ∃ next, (scheduler.moved runlistId id add runlist).runlists.find? runlistId =
        some next := by
      unfold moved
      rw [Table.find?_insert, if_pos rfl]
      exact ⟨_, rfl⟩
    obtain ⟨next, listedNext⟩ := listedMoved
    have inMoved : (scheduler.moved runlistId id add runlist).groups[groupId]? = some group :=
      inTable
    refine (yields_countActive shaped inMoved listedNext add).imp ?_
    rintro _ after ⟨shapedAfter, counted, recounted⟩
    refine ⟨⟨shapedAfter, ?_, fun exactly => ?_⟩, rfl, toggled.recounted recounted⟩
    · rw [counted]
      exact consistent.count (by rw [enrollment]; exact holds) add
    · rw [counted, enrollment]
      subst here
      exact (sound.counted exactly).toggle sound.consistent seat grouped holds was

/-- Changing the bit of a channel that has been checked. -/
theorem yields_toggle (sound : scheduler.Sound exact)
    (found : scheduler.channels[id]? = some channel)
    (home : channel.runlist = runlistId ∨ channel.state = .free) {add : Bool}
    (ready : add = true → channel.state = .bound ∨ channel.state = .active) :
    (toggle runlistId id add channel).Yields scheduler
      (fun changed after => after.Sound exact ∧
        if changed then Toggled runlistId id add scheduler after
        else after = scheduler ∧ scheduler.activeOn runlistId id = add)
      fun failure after => after = scheduler ∧ (∃ error, failure = .refused error) ∧
        (add = false → scheduler.activeOn runlistId id = false) := by
  unfold toggle
  rw [yields_bind, yields_runlist]
  cases listed : scheduler.runlists.find? runlistId with
  | none =>
    refine ⟨rfl, ⟨_, rfl⟩, fun _ => ?_⟩
    unfold activeOn
    rw [listed]
  | some runlist =>
    have below : id < runlist.activeChannels.size := by
      rw [(sound.shaped.runlist listed).channelSize]
      exact sound.shaped.channel_lt found
    have bit : scheduler.activeOn runlistId id = runlist.activeChannels.member id := by
      unfold activeOn
      rw [listed]
    have counts := yields_countGroup sound found listed home ready
    dsimp only
    rw [Bitmap.testAndSet_of_lt below, Bitmap.testAndClear_of_lt below]
    simp only [toggledChannel_eq]
    rw [bit] at counts ⊢
    cases add with
    | true =>
      rw [if_pos rfl, yields_bind, yields_lift_ok]
      dsimp only
      split
      · rename_i same
        exact ⟨sound, rfl, same⟩
      · rename_i differs
        unfold putRunlist changeChannel
        rw [yields_bind, yields_modify, yields_bind, yields_modify]
        refine (counts (Bool.eq_false_iff.mpr differs)).mono ?_ fun _ _ => False.elim
        rintro _ after ⟨soundAfter, rfl, toggled⟩
        exact ⟨soundAfter, toggled⟩
    | false =>
      rw [if_neg (by decide), yields_bind, yields_lift_ok]
      dsimp only
      split
      · rename_i same
        exact ⟨sound, rfl, same⟩
      · rename_i differs
        unfold putRunlist changeChannel
        rw [yields_bind, yields_modify, yields_bind, yields_modify]
        refine (counts ?_).mono ?_ fun _ _ => False.elim
        · simpa using differs
        · rintro _ after ⟨soundAfter, rfl, toggled⟩
          exact ⟨soundAfter, toggled⟩

/-- Adding a channel to an active set or taking it away either changes that alone or nothing. -/
theorem yields_setActive (sound : scheduler.Sound exact) (add : Bool) :
    (setActive runlistId id add).Yields scheduler
      (fun changed after => after.Sound exact ∧
        if changed then Toggled runlistId id add scheduler after
        else after = scheduler ∧ scheduler.activeOn runlistId id = add)
      fun failure after => after = scheduler ∧ (∃ error, failure = .refused error) ∧
        (add = false → scheduler.activeOn runlistId id = false) := by
  rw [setActive_eq, yields_bind, yields_channel]
  cases found : scheduler.channels[id]? with
  | none =>
    refine ⟨rfl, ⟨_, rfl⟩, fun _ => ?_⟩
    rw [Bool.eq_false_iff]
    intro on
    obtain ⟨seat, holds, _⟩ := sound.consistent.running on
    simp [enrollment, found] at holds
  | some channel =>
    have seat := seat_of_found found
    dsimp only
    split
    · rename_i elsewhere
      refine ⟨rfl, ⟨_, rfl⟩, fun _ => ?_⟩
      rw [Bool.eq_false_iff]
      intro on
      have here := sound.consistent.runlist_eq seat on
      rw [Bool.and_eq_true, decide_eq_true_iff] at elsewhere
      exact elsewhere.1 here
    · rename_i notElsewhere
      have home : channel.runlist = runlistId ∨ channel.state = .free := by
        by_contra away
        rw [not_or] at away
        exact notElsewhere (by simp [away.1, away.2])
      cases add with
      | false => exact yields_toggle sound found home (by simp)
      | true =>
        rw [if_pos rfl]
        cases state : channel.state with
        | free => exact ⟨rfl, ⟨_, rfl⟩, by simp⟩
        | faulted => exact ⟨rfl, ⟨_, rfl⟩, by simp⟩
        | bound => exact yields_toggle sound found home fun _ => .inl state
        | active => exact yields_toggle sound found home fun _ => .inr state

end Scheduler

end GpuSched
