import GpuSched.Proofs.Scheduler.Handovers
import GpuSched.Proofs.Scheduler.Serialization

/-!
# Lists that a request hands over

A request may hand several lists over, one after the other, and recovery does so for each channel
that it takes off a runlist. `handedLists` is the trace of a script: each list with the scheduler as
it is when the hardware has just been handed the list. The record of submissions grows by this trace
and by nothing else. In a script without a wait for the hardware active sets only shrink, and what
is taken out of one in its course is not in the list that is handed over last.
-/
namespace GpuSched

open Operation

/-- A list that the hardware is handed. -/
structure HandedList where
  runlist : Nat
  /-- The number of entries. -/
  count : Nat
  /-- The scheduler once the hardware has been handed the list, which is in the spare buffer. -/
  scheduler : Scheduler

namespace HandedList

/-- The entries of the list, as the words of the buffer hold them. -/
def entries (handed : HandedList) : List RunlistEntry :=
  ((handed.scheduler.runlists.find? handed.runlist).bind fun runlist =>
    (Scheduler.readEntries runlist.spare handed.count).toOption).getD []

/-- The list has an entry for a channel. -/
def Lists (handed : HandedList) (id : Nat) : Prop :=
  id ∈ handed.entries.filterMap RunlistEntry.channelId?

instance (handed : HandedList) (id : Nat) : Decidable (handed.Lists id) :=
  inferInstanceAs (Decidable (_ ∈ _))

/-- What the hardware has recorded of the list. -/
def submission? (handed : HandedList) : Option Submission :=
  handed.scheduler.machine.bus.hardware.submissions.head?

/-- The hardware has been told the number of entries and, if there are any, the page of the buffer
that they are in. -/
def Submitted (handed : HandedList) : Prop :=
  ∃ runlist base, handed.scheduler.runlists.find? handed.runlist = some runlist ∧
    Scheduler.readEntries runlist.spare handed.count = .ok handed.entries ∧
    handed.submission? = some ⟨handed.runlist, base, handed.count⟩ ∧
    (handed.count ≠ 0 → base = runlist.spare.page)

end HandedList

namespace Scheduler

variable {exact : Prop} {scheduler before middle after : Scheduler} {list count : Nat}
  {id : Option Nat} {add : Bool} {runlist : Runlist} {α : Type}

/-- Hand a list over: what is active, or nothing at all. The answer is its length. -/
def handAny (list : Nat) (suspend : Bool) : Operation Scheduler Nat :=
  (if suspend then pure 0 else writeList list) >>= fun count => do
    onBus (Device.submitRunlist list (← Scheduler.runlist list).spare.physical count)
    return count

/-- An update goes on from the list that it has handed over. -/
theorem submitList_eq_handAny (list : Nat) (suspend wait : Bool) :
    submitList list suspend wait =
      handAny list suspend >>= fun count => takeUp list count wait := by
  rw [submitList_eq]
  unfold handAny
  simp only [bind_assoc, pure_bind]
  rfl

/-- Update a runlist until the hardware has been handed the list. The answer is its length, if there
is a list. -/
def handUpdate (list : Nat) (id : Option Nat) (add : Bool) : Operation Scheduler (Option Nat) := do
  let _ ← Scheduler.runlist list
  match id with
  | none => some <$> handAny list (!add)
  | some id =>
      if ← setActive list id add then
        some <$> handAny list false
      else
        return none

/-- What is left of an update. -/
def takeUpAny (list : Nat) (wait : Bool) : Option Nat → Operation Scheduler Unit
  | some count => takeUp list count wait
  | none => pure ()

/-- An update goes on from the list that it has handed over, if there is one. -/
theorem updateRunlist_eq (list : Nat) (id : Option Nat) (add wait : Bool) :
    updateRunlist list id add wait = handUpdate list id add >>= takeUpAny list wait := by
  have goesOn : ∀ suspend, submitList list suspend wait =
      (some <$> handAny list suspend) >>= takeUpAny list wait := by
    intro suspend
    rw [submitList_eq_handAny, ← bind_pure_comp, bind_assoc]
    rfl
  unfold updateRunlist handUpdate
  rw [bind_assoc]
  refine congrArg _ (funext fun _ => ?_)
  cases id with
  | none => exact goesOn (!add)
  | some id =>
    dsimp only
    rw [bind_assoc]
    refine congrArg _ (funext fun changed => ?_)
    cases changed with
    | true => exact goesOn false
    | false => rfl

/-- The list that an update hands over, if it hands one over. -/
def handedLists (list : Nat) (id : Option Nat) (add : Bool) (scheduler : Scheduler) :
    List HandedList :=
  match handUpdate list id add scheduler with
  | (.ok (some count), handed) => [⟨list, count, handed⟩]
  | _ => []

/-- No list is handed over, and no runlist comes or goes. -/
structure Silent (before after : Scheduler) : Prop where
  config : after.config = before.config
  listed : after.runlists.contains = before.runlists.contains
  submissions : after.machine.bus.hardware.submissions = before.machine.bus.hardware.submissions

instance : IsPreorder Scheduler Silent where
  refl _ := ⟨rfl, rfl, rfl⟩
  trans _ _ _ one two :=
    ⟨two.config.trans one.config, two.listed.trans one.listed,
      two.submissions.trans one.submissions⟩

/-- Beside updates nothing is handed over. -/
theorem Stays.silent (stays : Stays before after) : Silent before after :=
  ⟨stays.config, by rw [stays.runlists], stays.hardware.submissions⟩

/-- A change of an active set hands nothing over. -/
theorem Shifts.silent (shifts : Shifts before after) : Silent before after :=
  ⟨shifts.config, shifts.tends.listed, by rw [shifts.machine]⟩

/-- Filling and swapping buffers hands nothing over. -/
theorem Refills.silent (refills : Refills list before after) : Silent before after :=
  ⟨refills.config, refills.listed, by rw [refills.machine]⟩

/-- Where nothing is handed over, the scheduler stays fit. -/
theorem Silent.fit (silent : Silent before after) (fit : before.Fit) : after.Fit :=
  fit.same silent.config silent.listed

/-- Nothing is handed over once the hardware has been handed the list. -/
theorem silent_takeUpAny (list : Nat) (wait : Bool) (count : Option Nat) :
    Respects Silent (takeUpAny list wait count) := by
  have waits : Waits Silent :=
    ⟨fun _ _ idles => idles.toStays.silent, fun _ _ => Shifts.silent, fun forced =>
      (drives_handleFaults (some forced)).mono fun _ _ drives => drives.toStays.silent⟩
  cases count with
  | none => exact respects_pure _
  | some count =>
    have swaps : Respects Silent (swapBuffers list count) :=
      (refills_swapBuffers list count).mono fun _ _ => Refills.silent
    cases wait with
    | false => exact swaps
    | true => exact (waits.awaitPickup list).bind fun _ => swaps

/-- One list is handed over. -/
structure HandsOne (before after : Scheduler) : Prop where
  config : after.config = before.config
  listed : after.runlists.contains = before.runlists.contains
  submissions : ∃ latest, after.machine.bus.hardware.submissions =
    latest :: before.machine.bus.hardware.submissions

/-- What precedes a submission without one. -/
theorem HandsOne.after_silent (submits : HandsOne middle after) (silent : Silent before middle) :
    HandsOne before after := by
  obtain ⟨latest, records⟩ := submits.submissions
  exact ⟨submits.config.trans silent.config, submits.listed.trans silent.listed, latest,
    by rw [records, silent.submissions]⟩

/-- A list is handed over if it can be written. -/
theorem yields_handAny (fit : scheduler.Fit) (list : Nat) (suspend : Bool) :
    (handAny list suspend).Yields scheduler
      (fun _ handed => HandsOne scheduler handed) fun _ after => Silent scheduler after := by
  have prepares : Respects Silent (if suspend then pure 0 else writeList list) := by
    cases suspend with
    | true => exact respects_pure _
    | false => exact (refills_writeList list).mono fun _ _ => Refills.silent
  unfold handAny
  rw [yields_bind]
  refine (respects_iff_yields.mp prepares scheduler).mono ?_ fun _ _ silent => silent
  intro count written silent
  rw [yields_bind, yields_runlist]
  cases found : written.runlists.find? list with
  | none => exact silent
  | some runlist =>
    have inRange : list < Register.runlistCount :=
      (silent.fit fit).inRange list (contains_of_find? found)
    dsimp only
    unfold onBus
    rw [yields_bind, yields_focus]
    refine (Device.yields_submitRunlist inRange _ _).mono ?_ fun _ _ => False.elim
    rintro _ bus ⟨base, records, _⟩
    have submits : HandsOne written
        { written with machine := { written.machine with bus } } := ⟨rfl, rfl, _, records⟩
    exact submits.after_silent silent

/-- An update hands a list over just when its answer says so. -/
theorem yields_handUpdate (fit : scheduler.Fit) (list : Nat) (id : Option Nat) (add : Bool) :
    (handUpdate list id add).Yields scheduler
      (fun answer after => match answer with
        | some _ => HandsOne scheduler after
        | none => Silent scheduler after)
      fun _ after => Silent scheduler after := by
  have hands : ∀ {state : Scheduler} (suspend : Bool), Silent scheduler state →
      (some <$> handAny list suspend).Yields state
        (fun answer after => match answer with
          | some _ => HandsOne scheduler after
          | none => Silent scheduler after)
        fun _ after => Silent scheduler after := by
    intro state suspend silent
    rw [yields_map]
    exact (yields_handAny (silent.fit fit) list suspend).mono
      (fun _ _ submits => submits.after_silent silent)
      fun _ _ later => IsTrans.trans _ _ _ silent later
  unfold handUpdate
  rw [yields_bind]
  refine (reads_runlist list scheduler).mono ?_ ?_
  · rintro runlist _ rfl
    cases id with
    | none => exact hands (!add) (Std.Refl.refl _)
    | some id =>
      dsimp only
      rw [yields_bind]
      refine (respects_iff_yields.mp (shifts_setActive list id add) _).mono ?_
        fun _ _ => Shifts.silent
      intro changed middle shifts
      cases changed with
      | true => exact hands false shifts.silent
      | false => exact shifts.silent
  · rintro _ _ rfl
    exact Std.Refl.refl _

/-- The lists that are handed over are recorded, and no others. -/
def Records (lists : List HandedList) (before after : Scheduler) : Prop :=
  after.Fit ∧ after.machine.bus.hardware.submissions =
    lists.reverse.filterMap HandedList.submission? ++ before.machine.bus.hardware.submissions

/-- Where nothing is handed over, nothing is recorded. -/
theorem Silent.records (silent : Silent before after) (fit : before.Fit) :
    Records [] before after :=
  ⟨silent.fit fit, silent.submissions⟩

/-- One trace after another. -/
theorem Records.trans {earlier later : List HandedList} (one : Records earlier before middle)
    (two : Records later middle after) : Records (earlier ++ later) before after := by
  refine ⟨two.1, ?_⟩
  rw [two.2, one.2, List.reverse_append, List.filterMap_append, List.append_assoc]

/-- The list of an update is recorded. -/
theorem records_updateRunlist (fit : scheduler.Fit) (list : Nat) (id : Option Nat)
    (add wait : Bool) :
    Records (scheduler.handedLists list id add) scheduler
      (updateRunlist list id add wait scheduler).2 := by
  have yields := yields_handUpdate fit list id add
  rw [updateRunlist_eq, run_bind]
  unfold handedLists
  rcases run : handUpdate list id add scheduler with ⟨failure | (_ | count), handed⟩
  · exact (yields.of_error run).records fit
  · exact Silent.records (yields.of_ok run) fit
  · have submits : HandsOne scheduler handed := yields.of_ok run
    obtain ⟨latest, records⟩ := submits.submissions
    have last : HandedList.submission? ⟨list, count, handed⟩ = some latest := by
      unfold HandedList.submission?
      rw [records]
      rfl
    have recorded : Records [⟨list, count, handed⟩] scheduler handed := by
      refine ⟨fit.same submits.config submits.listed, ?_⟩
      rw [List.reverse_singleton, List.filterMap_cons_some last, records]
      rfl
    exact recorded.trans ((silent_takeUpAny list wait (some count) handed).records recorded.1)

/-- A list is handed over whose channels are in the active set, and neither a channel nor an active
set changes. -/
structure Hands (list count : Nat) (before handed : Scheduler) : Prop where
  config : handed.config = before.config
  channels : handed.channels = before.channels
  active : ∀ other id, handed.activeOn other id = before.activeOn other id
  submitted : HandedList.Submitted ⟨list, count, handed⟩
  lists : ∀ id, HandedList.Lists ⟨list, count, handed⟩ id → before.activeOn list id = true
  /-- The list has no more entries than there are channels and groups. -/
  fits : count ≤ before.config.channelCount + before.config.groupCount

/-- The entries of a list can be read in the spare buffer. -/
theorem entries_of_reads {entries : List RunlistEntry}
    (found : scheduler.runlists.find? list = some runlist)
    (reads : readEntries runlist.spare count = .ok entries) :
    HandedList.entries ⟨list, count, scheduler⟩ = entries := by
  unfold HandedList.entries
  rw [found, Option.bind_some, reads]
  rfl

/-- The list of what is active is handed over. -/
theorem Handed.hands (sound : before.Sound exact) {handed : Scheduler}
    (hands : Handed list ((before.listing list).map RunlistEntry.stored) before handed) :
    Hands list (before.listing list).length before handed := by
  obtain ⟨runlist, spare, base, found, written, physical, -, reads, records, page⟩ := hands.written
  rw [List.length_map] at reads records
  have there : handed.runlists.find? list = some { runlist with spare } := by
    rw [written, Table.find?_insert, if_pos rfl]
  have entries := entries_of_reads there reads
  refine ⟨by rw [hands.others], by rw [hands.others], fun other id => ?_,
    ⟨_, base, there, ?_, ?_, fun some => ?_⟩, fun id lists => ?_, length_listing_le sound⟩
  · unfold activeOn
    rw [written, Table.find?_insert]
    by_cases own : other = list
    · rw [if_pos own, own, found]
    · rw [if_neg own]
  · rw [entries]
    exact reads
  · unfold HandedList.submission?
    rw [records]
    rfl
  · unfold DmaBuffer.page
    rw [physical]
    refine page fun none => some ?_
    rw [← List.length_map, none]
    rfl
  · unfold HandedList.Lists at lists
    rw [entries] at lists
    exact active_of_mem_listing sound lists

/-- The list of a runlist that is there is handed over, be it suspended or not. -/
theorem exists_handAny (sound : scheduler.Sound exact)
    (found : scheduler.runlists.find? list = some runlist) (suspend : Bool) :
    ∃ count handed, handAny list suspend scheduler = (.ok count, handed) ∧
      Hands list count scheduler handed := by
  cases suspend with
  | false =>
    obtain ⟨handed, hands, run⟩ := exists_handList sound found
    exact ⟨_, handed, run, hands.hands sound⟩
  | true =>
    have submitted : Yields (Device.submitRunlist list runlist.spare.physical 0)
        scheduler.machine.bus _ _ := Device.yields_submitRunlist (sound.shaped.inRange found) _ 0
    obtain ⟨_, bus, submits, base, records, -⟩ := submitted.exists_ok
    let handed : Scheduler := { scheduler with machine := { scheduler.machine with bus } }
    have hands : onBus (Device.submitRunlist list runlist.spare.physical 0) scheduler =
        (.ok (), handed) := by
      unfold onBus focus
      simp only [ExceptT.mk, submits]
      rfl
    have entries : HandedList.entries ⟨list, 0, handed⟩ = [] := entries_of_reads found rfl
    refine ⟨0, handed, ?_, rfl, rfl, fun _ _ => rfl, ⟨runlist, base, found, ?_, ?_, ?_⟩, ?_,
      Nat.zero_le _⟩
    · change ((Scheduler.runlist list >>= fun runlist => onBus (Device.submitRunlist list
        runlist.spare.physical 0) >>= fun _ => pure 0) : Operation Scheduler Nat) scheduler = _
      rw [run_bind_of_ok (run_runlist found), run_bind_of_ok hands]
      rfl
    · rw [entries]
      rfl
    · unfold HandedList.submission?
      change bus.hardware.submissions.head? = _
      rw [records]
      rfl
    · exact fun some => absurd rfl some
    · intro id lists
      unfold HandedList.Lists at lists
      rw [entries] at lists
      cases lists

/-- An update of a sound scheduler changes the active set at one channel at most, and then hands the
list over, or nothing happens before its end. -/
theorem yields_handUpdate_of_sound (sound : scheduler.Sound exact) (list : Nat) (id : Option Nat)
    (add : Bool) :
    (handUpdate list id add).Yields scheduler
      (fun answer handed => match answer with
        | some count => ∃ middle, (middle = scheduler ∨
            ∃ channel, id = some channel ∧ Toggled list channel add scheduler middle) ∧
            Hands list count middle handed
        | none => handed = scheduler)
      fun _ after => after = scheduler := by
  unfold handUpdate
  rw [yields_bind, yields_runlist]
  cases found : scheduler.runlists.find? list with
  | none => exact rfl
  | some runlist =>
    cases id with
    | none =>
      obtain ⟨count, handed, run, hands⟩ := exists_handAny sound found (!add)
      dsimp only
      rw [yields_map]
      unfold Yields
      rw [run]
      exact ⟨scheduler, .inl rfl, hands⟩
    | some channel =>
      dsimp only
      rw [yields_bind]
      refine (yields_setActive sound add).mono ?_ ?_
      · rintro changed middle ⟨soundMiddle, outcome⟩
        cases changed with
        | false => exact outcome.1
        | true =>
          have toggled : Toggled list channel add scheduler middle := outcome
          have listed := contains_of_find? found
          rw [← toggled.toSteady.listed] at listed
          obtain ⟨runlist, there⟩ := exists_runlist listed
          obtain ⟨count, handed, run, hands⟩ := exists_handAny soundMiddle there false
          rw [if_pos rfl, yields_map]
          unfold Yields
          rw [run]
          exact ⟨middle, .inr ⟨channel, rfl, toggled⟩, hands⟩
      · rintro _ after ⟨same, _⟩
        exact same

/-- A list that an update hands over. -/
theorem of_mem_handedLists (sound : scheduler.Sound exact) {handed : HandedList}
    (mem : handed ∈ scheduler.handedLists list id add) :
    handed.runlist = list ∧ ∃ middle, (middle = scheduler ∨
      ∃ channel, id = some channel ∧ Toggled list channel add scheduler middle) ∧
      Hands list handed.count middle handed.scheduler := by
  have yields := yields_handUpdate_of_sound sound list id add
  unfold handedLists at mem
  split at mem
  · rename_i count state run
    obtain rfl := List.mem_singleton.mp mem
    exact ⟨rfl, yields.of_ok run⟩
  · cases mem

/-- Active sets only shrink, and no channel becomes active. -/
structure Wanes (before after : Scheduler) : Prop where
  config : after.config = before.config
  on : ∀ list id, after.activeOn list id = true → before.activeOn list id = true
  active : ∀ id, after.ActiveAt id → before.ActiveAt id

instance : IsPreorder Scheduler Wanes where
  refl _ := ⟨rfl, fun _ _ on => on, fun _ active => active⟩
  trans _ _ _ one two :=
    ⟨two.config.trans one.config, fun list id => one.on list id ∘ two.on list id,
      fun id => one.active id ∘ two.active id⟩

/-- Runlists stay as they are, and no channel becomes active. -/
structure Pauses (before after : Scheduler) : Prop where
  config : after.config = before.config
  runlists : after.runlists = before.runlists
  active : ∀ id, after.ActiveAt id → before.ActiveAt id

/-- Beside updates runlists stay as they are. -/
theorem Stays.pauses (stays : Stays before after) : Pauses before after :=
  ⟨stays.config, stays.runlists, stays.active⟩

/-- Where runlists stay as they are, active sets do. -/
theorem Pauses.activeOn (pauses : Pauses before after) (list id : Nat) :
    after.activeOn list id = before.activeOn list id := by
  unfold Scheduler.activeOn
  rw [pauses.runlists]

/-- Active sets that stay shrink. -/
theorem Pauses.wanes (pauses : Pauses before after) : Wanes before after :=
  ⟨pauses.config, fun list id on => (pauses.activeOn list id).symm.trans on, pauses.active⟩

/-- A channel is taken out of an active set, the list is handed over, and no channel and no active
set changes any more. -/
structure Removes (list : Nat) (handed : HandedList) (before after : Scheduler) : Prop where
  config : after.config = handed.scheduler.config
  runlist : handed.runlist = list
  submitted : handed.Submitted
  lists : ∀ id, handed.Lists id → handed.scheduler.activeOn list id = true
  wanes : Wanes before handed.scheduler
  others : ∀ other id, other ≠ list →
    handed.scheduler.activeOn other id = before.activeOn other id
  channels : after.channels = handed.scheduler.channels
  active : ∀ other id, after.activeOn other id = handed.scheduler.activeOn other id
  fits : handed.count ≤ before.config.channelCount + before.config.groupCount

/-- What is taken out of an active set leaves it smaller. -/
theorem Toggled.wanes {channel : Nat} (toggled : Toggled list channel false before after) :
    Wanes before after := by
  refine ⟨toggled.toSteady.config, fun other id on => ?_, fun id active => ?_⟩
  · rw [toggled.active] at on
    split at on
    · cases on
    · exact on
  · obtain ⟨changed, found, isActive⟩ := active
    by_cases own : id = channel
    · subst own
      obtain ⟨held, -, -, -, holds⟩ := toggled.own
      rw [holds] at found
      cases found
      unfold toggledState at isActive
      split at isActive
      · cases ‹false = true›
      · split at isActive
        · cases isActive
        · exact absurd isActive ‹_›
    · rw [toggled.others own] at found
      exact ⟨changed, found, isActive⟩

/-- An update that takes a channel off a runlist without a wait hands a list over or changes
nothing. -/
theorem removes_updateRunlist (sound : scheduler.Sound exact) (list id : Nat) :
    (scheduler.handedLists list (some id) false = [] ∧
        (updateRunlist list (some id) false false scheduler).2 = scheduler) ∨
      ∃ handed, scheduler.handedLists list (some id) false = [handed] ∧
        Removes list handed scheduler (updateRunlist list (some id) false false scheduler).2 := by
  have yields := yields_handUpdate_of_sound sound list (some id) false
  rw [updateRunlist_eq, run_bind]
  unfold handedLists
  rcases run : handUpdate list (some id) false scheduler with ⟨failure | (_ | count), handed⟩
  · exact .inl ⟨rfl, yields.of_error run⟩
  · exact .inl ⟨rfl, yields.of_ok run⟩
  · obtain ⟨middle, first, hands⟩ := yields.of_ok run
    have refills : Refills list handed (swapBuffers list count handed).2 :=
      refills_swapBuffers list count handed
    have wanes : Wanes scheduler middle := by
      rcases first with rfl | ⟨_, _, toggled⟩
      · exact Std.Refl.refl _
      · exact toggled.wanes
    have later : Wanes middle handed := by
      refine ⟨hands.config, fun other id on => (hands.active other id).symm.trans on,
        fun id active => ?_⟩
      unfold ActiveAt at active
      rwa [hands.channels] at active
    refine .inr ⟨⟨list, count, handed⟩, rfl, refills.config, rfl, hands.submitted,
      fun id lists => ?_, IsTrans.trans _ _ _ wanes later, fun other id apart => ?_,
      refills.channels, refills.active, wanes.config ▸ hands.fits⟩
    · exact (hands.active list id).trans (hands.lists id lists)
    · refine (hands.active other id).trans ?_
      rcases first with rfl | ⟨_, _, toggled⟩
      · rfl
      · rw [toggled.active, if_neg fun same => apart same.1]

namespace Removes

variable {handed : HandedList}

/-- Active sets have only shrunk in the end. -/
theorem onward (removes : Removes list handed before after) : Wanes handed.scheduler after := by
  refine ⟨removes.config, fun other id on => (removes.active other id).symm.trans on,
    fun id active => ?_⟩
  unfold ActiveAt at active
  rwa [removes.channels] at active

/-- The list does not name the channel that has been taken out. -/
theorem dropped (removes : Removes list handed before after) {other channel : Nat}
    (on : before.activeOn other channel = true) (off : after.activeOn other channel = false) :
    handed.runlist = other ∧ ¬handed.Lists channel := by
  rw [removes.active] at off
  by_cases own : other = list
  · refine ⟨removes.runlist.trans own.symm, fun lists => ?_⟩
    rw [own, removes.lists channel lists] at off
    cases off
  · rw [removes.others other channel own, on] at off
    cases off

end Removes

end Scheduler

/-- A list is handed over between two states, and others are after it. Active sets shrink all the
time, and for whatever leaves one after this list there is a later list without it. -/
structure HandedList.Passes (handed : HandedList) (later : List HandedList)
    (before after : Scheduler) : Prop where
  submitted : handed.Submitted
  lists : ∀ id, handed.Lists id → handed.scheduler.activeOn handed.runlist id = true
  since : Scheduler.Wanes before handed.scheduler
  onward : Scheduler.Wanes handed.scheduler after
  superseded : ∀ list id, handed.scheduler.activeOn list id = true →
    after.activeOn list id = false → ∃ next ∈ later, next.runlist = list ∧ ¬next.Lists id
  fits : handed.count ≤ before.config.channelCount + before.config.groupCount

/-- The list of an update that takes a channel off a runlist is its only one. -/
theorem Scheduler.Removes.passes {list : Nat} {handed : HandedList} {before after : Scheduler}
    (removes : Removes list handed before after) : handed.Passes [] before after := by
  refine ⟨removes.submitted, fun id lists => ?_, removes.wanes, removes.onward,
    fun other id on off => ?_, removes.fits⟩
  · rw [removes.runlist]
    exact removes.lists id lists
  · rw [removes.active, on] at off
    cases off

namespace Act

variable {α : Type} {scheduler : Scheduler}

/-- The list that a step hands over. -/
def handedLists : Act α → Scheduler → List HandedList
  | .update list id add _, scheduler => scheduler.handedLists list id add
  | .withdraw list id, scheduler => scheduler.handedLists list (some id) false
  | _, _ => []

/-- The list of a step is recorded, and no other. -/
theorem records (fit : scheduler.Fit) (step : Act α) :
    Scheduler.Records (step.handedLists scheduler) scheduler (step.run scheduler).2 := by
  cases step with
  | update list id add wait => exact Scheduler.records_updateRunlist fit list id add wait
  | withdraw list id => exact Scheduler.records_updateRunlist fit list (some id) false true
  | switch engine disabled =>
    exact (Scheduler.drives_setEngineDisabled engine disabled scheduler).toStays.silent.records fit
  | resets id group =>
    exact (Scheduler.drives_runDeferredResets id group scheduler).toStays.silent.records fit
  | alter operation alters => exact (alters scheduler).toStays.silent.records fit
  | event injection =>
    change Scheduler.Records [] scheduler (inject injection scheduler).2
    rw [state_inject]
    cases injects : scheduler.machine.bus.hardware.inject injection with
    | error failure => exact ⟨fit, rfl⟩
    | ok hardware => exact ⟨fit.same rfl rfl, (Simulation.inject_eq_ok injects).1⟩

/-- A step that hands nothing over and leaves runlists as they are. -/
structure Pauses (step : Act α) : Prop where
  silent : ∀ scheduler, step.handedLists scheduler = []
  pauses : ∀ exact : Prop,
    Respects (Within (Scheduler.Sound exact) Scheduler.Pauses) step.run

end Act

namespace Script

variable {allowed : (α : Type) → Act α → Prop} {α β : Type} {scheduler : Scheduler}

/-- The lists that a script hands over, the first one first. -/
def handedLists {α : Type} : Script allowed α → Scheduler → List HandedList
  | idle _ _, _ => []
  | faults _, _ => []
  | remove list id, scheduler => scheduler.handedLists list (some id) false
  | act step _, scheduler => step.handedLists scheduler
  | bind first next, scheduler =>
      first.handedLists scheduler ++
        match first.run scheduler with
        | (.ok value, middle) => (next value).handedLists middle
        | (.error _, _) => []
  | attempt script, scheduler => script.handedLists scheduler

/-- A place in two lists in a row is in one of them. -/
theorem suffix_append {item : α} {rest one two : List α} (suffix : item :: rest <:+ one ++ two) :
    item :: rest <:+ two ∨ ∃ front, rest = front ++ two ∧ item :: front <:+ one := by
  rcases List.suffix_or_suffix_of_suffix suffix (List.suffix_append one two) with
    inTwo | ⟨front, same⟩
  · exact .inl inTwo
  · cases front with
    | nil => exact .inl (same ▸ List.suffix_rfl)
    | cons head front =>
      obtain ⟨rfl, rfl⟩ := List.cons.inj same
      exact .inr ⟨front, rfl, List.suffix_append_self_iff.mp suffix⟩

/-- Two scripts in a row hand over what they hand over in turn, where the first one goes through. -/
theorem handedLists_bind (first : Script allowed α) (next : α → Script allowed β)
    (scheduler : Scheduler) :
    ((first.bind next).handedLists scheduler = first.handedLists scheduler ∧
        ((first.bind next).run scheduler).2 = (first.run scheduler).2) ∨
      ∃ value, (first.bind next).handedLists scheduler =
          first.handedLists scheduler ++ (next value).handedLists (first.run scheduler).2 ∧
        ((first.bind next).run scheduler).2 = ((next value).run (first.run scheduler).2).2 := by
  have lists : (first.bind next).handedLists scheduler = first.handedLists scheduler ++
      match first.run scheduler with
      | (.ok value, middle) => (next value).handedLists middle
      | (.error _, _) => [] := by rw [handedLists]
  have runs : (first.bind next).run scheduler = _ :=
    Operation.run_bind first.run (fun value => (next value).run) scheduler
  rw [lists, runs]
  rcases first.run scheduler with ⟨failure | value, middle⟩
  · exact .inl ⟨List.append_nil _, rfl⟩
  · exact .inr ⟨value, rfl, rfl⟩

/-- The lists of a script are recorded, and no others. -/
theorem records (script : Script allowed α) (fit : scheduler.Fit) :
    Scheduler.Records (script.handedLists scheduler) scheduler (script.run scheduler).2 := by
  induction script generalizing scheduler with
  | idle operation idles => exact (idles scheduler).toStays.silent.records fit
  | faults forced =>
    exact (Scheduler.drives_handleFaults forced scheduler).toStays.silent.records fit
  | remove list id => exact Scheduler.records_updateRunlist fit list (some id) false false
  | act step isAllowed => exact step.records fit
  | bind first next one two =>
    have earlier := one fit
    rcases handedLists_bind first next scheduler with ⟨lists, last⟩ | ⟨value, lists, last⟩
    · rw [lists, last]
      exact earlier
    · rw [lists, last]
      exact earlier.trans (two value earlier.1)
  | attempt script ih =>
    have same : (script.attempt.run scheduler).2 = (script.run scheduler).2 :=
      state_attempt script.run scheduler
    rw [same]
    exact ih fit

section Pauses

variable {exact : Prop} {handed : HandedList} {later : List HandedList}
  (pauses : ∀ (α : Type) (step : Act α), allowed α step → step.Pauses)

/-- Recovery makes active sets smaller. -/
theorem recovers_wanes : Recovers (Within (Scheduler.Sound exact) Scheduler.Wanes) where
  idles _ _ idles sound := ⟨idles.sound sound, idles.toStays.pauses.wanes⟩
  faults forced scheduler sound := by
    refine ⟨Yields.holds ?_, (Scheduler.drives_handleFaults forced scheduler).toStays.pauses.wanes⟩
    exact (Scheduler.yields_handleFaults sound forced).mono (fun _ _ => And.left)
      fun _ _ => False.elim
  removes list id scheduler sound := by
    refine ⟨Yields.holds ?_, ?_⟩
    · exact (Scheduler.yields_updateRunlist sound (some id) false false).mono
        (fun _ _ updated => updated.sound) fun _ _ updated => updated.2.sound
    · rcases Scheduler.removes_updateRunlist sound list id with ⟨-, same⟩ | ⟨handed, -, removes⟩
      · rw [same]
        exact Std.Refl.refl _
      · exact IsTrans.trans _ _ _ removes.wanes removes.onward

include pauses

/-- A script that waits for no list makes active sets smaller. -/
theorem wanes (script : Script allowed α) :
    Respects (Within (Scheduler.Sound exact) Scheduler.Wanes) script.run :=
  script.respects recovers_wanes fun α step isAllowed =>
    ((pauses α step isAllowed).pauses exact).mono fun _ _ within sound =>
      ⟨(within sound).1, (within sound).2.wanes⟩

/-- What leaves an active set in the course of the script is not in some list that it hands over. -/
theorem dropped (script : Script allowed α) (sound : scheduler.Sound exact) {list id : Nat}
    (on : scheduler.activeOn list id = true)
    (off : (script.run scheduler).2.activeOn list id = false) :
    ∃ next ∈ script.handedLists scheduler, next.runlist = list ∧ ¬next.Lists id := by
  have stays : ∀ {before after : Scheduler}, Scheduler.Pauses before after →
      before.activeOn list id = true → after.activeOn list id = false → False := by
    intro before after pauses on off
    rw [pauses.activeOn, on] at off
    cases off
  induction script generalizing scheduler with
  | idle operation idles => exact (stays (idles scheduler).toStays.pauses on off).elim
  | faults forced =>
    exact (stays (Scheduler.drives_handleFaults forced scheduler).toStays.pauses on off).elim
  | remove other channel =>
    rcases Scheduler.removes_updateRunlist sound other channel with
      ⟨-, same⟩ | ⟨handed, lists, removes⟩
    · change (Scheduler.updateRunlist other (some channel) false false scheduler).2.activeOn
        list id = false at off
      rw [same, on] at off
      cases off
    · exact ⟨handed, by unfold handedLists; rw [lists]; exact List.mem_singleton_self _,
        removes.dropped on off⟩
  | act step isAllowed =>
    exact (stays ((pauses _ step isAllowed).pauses exact scheduler sound).2 on off).elim
  | bind first next one two =>
    rcases handedLists_bind first next scheduler with ⟨lists, last⟩ | ⟨value, lists, last⟩
    · rw [last] at off
      rw [lists]
      exact one sound on off
    · rw [last] at off
      rw [lists]
      cases between : (first.run scheduler).2.activeOn list id with
      | false =>
        obtain ⟨found, mem, names⟩ := one sound on between
        exact ⟨found, List.mem_append_left _ mem, names⟩
      | true =>
        have soundMiddle := (wanes pauses first scheduler sound).1
        obtain ⟨found, mem, names⟩ := two value soundMiddle between off
        exact ⟨found, List.mem_append_right _ mem, names⟩
  | attempt script ih =>
    have same : (script.attempt.run scheduler).2 = (script.run scheduler).2 :=
      state_attempt script.run scheduler
    rw [same] at off
    exact ih sound on off

/-- Each list of a script passes, with the lists after it. -/
theorem passes (script : Script allowed α) (sound : scheduler.Sound exact)
    (suffix : handed :: later <:+ script.handedLists scheduler) :
    handed.Passes later scheduler (script.run scheduler).2 := by
  have silent : ∀ later, ¬handed :: later <:+ ([] : List HandedList) := by simp
  induction script generalizing scheduler later with
  | idle operation idles => exact absurd suffix (silent later)
  | faults forced => exact absurd suffix (silent later)
  | remove list id =>
    rcases Scheduler.removes_updateRunlist sound list id with ⟨lists, -⟩ | ⟨other, lists, removes⟩
    · unfold handedLists at suffix
      rw [lists] at suffix
      exact absurd suffix (silent later)
    · unfold handedLists at suffix
      rw [lists, List.suffix_cons_iff] at suffix
      obtain ⟨rfl, rfl⟩ := List.cons.inj (suffix.resolve_right (silent later))
      exact removes.passes
  | act step isAllowed =>
    unfold handedLists at suffix
    rw [(pauses _ step isAllowed).silent] at suffix
    exact absurd suffix (silent later)
  | bind first next one two =>
    rcases handedLists_bind first next scheduler with ⟨lists, last⟩ | ⟨value, lists, last⟩
    · rw [last]
      rw [lists] at suffix
      exact one sound suffix
    · rw [last]
      rw [lists] at suffix
      obtain ⟨soundMiddle, wanesFirst⟩ := wanes pauses first scheduler sound
      have wanesNext := (wanes pauses (next value) _ soundMiddle).2
      rcases suffix_append suffix with inNext | ⟨rest, rfl, inFirst⟩
      · have passes := two value soundMiddle inNext
        exact { passes with
          since := IsTrans.trans _ _ _ wanesFirst passes.since
          fits := wanesFirst.config ▸ passes.fits }
      · have passes := one sound inFirst
        refine { passes with
          onward := IsTrans.trans _ _ _ passes.onward wanesNext
          superseded := fun list id on off => ?_ }
        cases between : (first.run scheduler).2.activeOn list id with
        | false =>
          obtain ⟨found, mem, names⟩ := passes.superseded list id on between
          exact ⟨found, List.mem_append_left _ mem, names⟩
        | true =>
          obtain ⟨found, mem, names⟩ := dropped pauses (next value) soundMiddle between off
          exact ⟨found, List.mem_append_right _ mem, names⟩
  | attempt script ih =>
    have same : (script.attempt.run scheduler).2 = (script.run scheduler).2 :=
      state_attempt script.run scheduler
    rw [same]
    exact ih sound suffix

end Pauses

end Script

end GpuSched
