import GpuSched.Proofs.Register.Channels
import GpuSched.Proofs.Scheduler.FailedUpdates

/-!
# What operations do to channels

Each operation is told from the side of a single channel: what becomes of its references, of the
count of its events and of its state, and with which aborts the operation may end. Recovery marks
channels in use faulted and does nothing else to them, an update toggles one channel besides, and
only binding, acknowledging and giving back the last reference change a state in any other way.
-/
namespace GpuSched

open Operation

/-- A state stays, or a channel in use is marked faulted. -/
inductive ChannelState.Falls : ChannelState → ChannelState → Prop where
  | same {state : ChannelState} : Falls state state
  | marked {state : ChannelState} (live : state ≠ .free) : Falls state .faulted

/-- Falling twice is falling once. -/
theorem ChannelState.Falls.trans {one two three : ChannelState} (first : one.Falls two)
    (second : two.Falls three) : one.Falls three := by
  cases second with
  | same => exact first
  | marked live =>
    cases first with
    | same => exact .marked live
    | marked was => exact .marked was

/-- What an update makes of a state: the channel that is asked for is toggled, and recovery may
mark any channel. -/
inductive ChannelState.Updates (isOwn : Prop) (add wait : Bool) :
    ChannelState → ChannelState → Prop where
  | same {state : ChannelState} : Updates isOwn add wait state state
  | toggled {state : ChannelState} (own : isOwn) (live : state ≠ .free) :
      Updates isOwn add wait state (Scheduler.toggledState state add)
  | marked {state : ChannelState} (waits : wait = true) (live : state ≠ .free) :
      Updates isOwn add wait state .faulted

/-- A channel keeps its references and is posted some events at most. -/
structure Channel.Goes (moves : ChannelState → ChannelState → Prop) (posts : Nat)
    (before after : Channel) : Prop where
  references : after.references = before.references
  events : after.events ≤ before.events + posts
  state : moves before.state after.state

namespace Channel.Goes

variable {moves later both : ChannelState → ChannelState → Prop} {posts more : Nat}
  {before middle after : Channel}

/-- A channel goes on after it has gone on. -/
theorem trans (one : Goes moves posts before middle) (two : Goes later more middle after)
    (compose : ∀ {one two three : ChannelState}, moves one two → later two three →
      both one three) : Goes both (posts + more) before after where
  references := two.references.trans one.references
  events := two.events.trans (by have := one.events; omega)
  state := compose one.state two.state

/-- More is allowed. -/
theorem mono (goes : Goes moves posts before after) (fewer : posts ≤ more)
    (weaker : ∀ {one two : ChannelState}, moves one two → both one two) :
    Goes both more before after :=
  ⟨goes.references, goes.events.trans (Nat.add_le_add_left fewer _), weaker goes.state⟩

/-- What a channel is apart from its state and its fault goes on as it is. -/
theorem of_core (same : after.core = before.core) (state : moves before.state after.state) :
    Goes moves 0 before after where
  references := by
    have references := congrArg Channel.references same
    exact references
  events := by
    have events := congrArg Channel.events same
    exact Nat.le_of_eq events
  state := state

end Channel.Goes

namespace Scheduler

variable {exact : Prop} {scheduler before middle after : Scheduler} {id groupId runlistId : Nat}
  {channel : Channel} {may later both : Nat → Channel → Channel → Prop} {α β : Type}

/-- Each channel goes on as it may. -/
structure Moves (may : Nat → Channel → Channel → Prop) (before after : Scheduler) : Prop where
  found : ∀ {id : Nat} {channel : Channel}, before.channels[id]? = some channel →
    ∃ next, after.channels[id]? = some next ∧ may id channel next

/-- The states stay. -/
abbrev Resting (posts : Nat) : Nat → Channel → Channel → Prop := fun _ => Channel.Goes Eq posts

/-- Channels in use may be marked faulted. -/
abbrev Falling (posts : Nat) : Nat → Channel → Channel → Prop :=
  fun _ => Channel.Goes ChannelState.Falls posts

/-- A channel may be toggled, and if the hardware is waited for, channels may be marked faulted. -/
abbrev Updating (own : Option Nat) (add wait : Bool) : Nat → Channel → Channel → Prop :=
  fun id => Channel.Goes (ChannelState.Updates (own = some id) add wait) 0

/-- Going on twice. -/
theorem Moves.trans (one : Moves may before middle) (two : Moves later middle after)
    (compose : ∀ {id : Nat} {first second third : Channel},
      before.channels[id]? = some first → may id first second → later id second third →
        both id first third) : Moves both before after := by
  refine ⟨fun found => ?_⟩
  obtain ⟨next, holds, first⟩ := one.found found
  obtain ⟨last, there, second⟩ := two.found holds
  exact ⟨last, there, compose found first second⟩

/-- More is allowed. -/
theorem Moves.mono (moves : Moves may before after)
    (weaker : ∀ {id : Nat} {one two : Channel}, before.channels[id]? = some one →
      may id one two → both id one two) : Moves both before after := by
  refine ⟨fun found => ?_⟩
  obtain ⟨next, holds, goes⟩ := moves.found found
  exact ⟨next, holds, weaker found goes⟩

/-- Channels that are not touched rest. -/
theorem moves_of_same (same : after.channels = before.channels) :
    Moves (Resting 0) before after := by
  refine ⟨fun {_ channel} found => ?_⟩
  exact ⟨channel, by rw [same, found], rfl, Nat.le_refl _, rfl⟩

/-- One channel is changed. -/
theorem moves_changed {change : Channel → Channel}
    (own : ∀ {channel}, scheduler.channels[id]? = some channel → may id channel (change channel))
    (others : ∀ {other channel}, other ≠ id → may other channel channel) :
    Moves may scheduler
      { scheduler with channels := scheduler.channels.modify id change } := by
  refine ⟨fun {other channel} found => ?_⟩
  by_cases isOwn : id = other
  · subst isOwn
    exact ⟨_, Array.getElem?_modify.trans (by rw [if_pos rfl, found]; rfl), own found⟩
  · exact ⟨channel, Array.getElem?_modify.trans ((if_neg isOwn).trans found),
      others (Ne.symm isOwn)⟩

/-- A channel that is changed may rest. -/
theorem rests_changed {change : Channel → Channel}
    (same : ∀ {channel}, scheduler.channels[id]? = some channel →
      channel.Goes Eq 0 (change channel)) :
    Moves (Resting 0) scheduler
      { scheduler with channels := scheduler.channels.modify id change } :=
  moves_changed same fun _ => ⟨rfl, Nat.le_refl _, rfl⟩

instance : IsPreorder Scheduler (Moves (Resting 0)) where
  refl _ := moves_of_same rfl
  trans _ _ _ one two := one.trans two fun _ first second => first.trans second Eq.trans

/-- Resting is falling. -/
theorem Moves.falls {posts : Nat} (rests : Moves (Resting posts) before after) :
    Moves (Falling posts) before after :=
  rests.mono fun _ goes => goes.mono (Nat.le_refl _) fun same => same ▸ .same

/-- Where fewer events may be posted, more may. -/
theorem Moves.posts {moves : Nat → ChannelState → ChannelState → Prop} {posts more : Nat}
    (goes : Moves (fun id => Channel.Goes (moves id) posts) before after) (fewer : posts ≤ more) :
    Moves (fun id => Channel.Goes (moves id) more) before after :=
  goes.mono fun _ goes => goes.mono fewer fun moves => moves

/-- Falling after falling. -/
theorem Moves.falls_trans {posts more : Nat} (one : Moves (Falling posts) before middle)
    (two : Moves (Falling more) middle after) : Moves (Falling (posts + more)) before after :=
  one.trans two fun _ first second => first.trans second .trans

/-- Channels that are stopped fall. -/
theorem Stops.falls {touched marked dropped : Set Nat}
    (stops : Stops touched marked dropped before after) : Moves (Falling 0) before after := by
  refine ⟨fun {id channel} found => ?_⟩
  obtain ⟨next, holds, core⟩ := stops.toSteady.channel_found found
  refine ⟨next, holds, .of_core core ?_⟩
  by_cases spared : id ∉ marked ∨ channel.state = .free
  · have same := (stops.spared found spared).symm.trans holds
    cases same
    exact .same
  · rw [not_or, not_not] at spared
    have live : next.state ≠ .free := fun free => spared.2 ((state_eq_free_iff core).mp free)
    rw [stops.faulted spared.1 holds live]
    exact .marked spared.2

/-- Where none is marked, all rest. -/
theorem Stops.rests {touched dropped : Set Nat}
    (stops : Stops touched ∅ dropped before after) : Moves (Resting 0) before after := by
  refine ⟨fun {id channel} found => ?_⟩
  exact ⟨channel, stops.spared found (.inl (Set.notMem_empty id)), rfl, Nat.le_refl _, rfl⟩

/-- Channels to which events are posted rest. -/
theorem Notified.rests (notified : Notified before after) : Moves (Resting 1) before after := by
  refine ⟨fun {id channel} found => ?_⟩
  obtain ⟨next, holds, silent⟩ := notified.channel_found found
  have references := congrArg Channel.references silent
  have state := congrArg Channel.state silent
  exact ⟨next, holds, references, notified.events found holds, state.symm⟩

/-- A channel is toggled. -/
theorem Toggled.moves {add : Bool} (toggled : Toggled runlistId id add before after)
    (wait : Bool) : Moves (Updating (some id) add wait) before after := by
  refine ⟨fun {other channel} found => ?_⟩
  by_cases isOwn : other = id
  · subst isOwn
    obtain ⟨held, was, live, _, holds⟩ := toggled.own
    cases found.symm.trans was
    exact ⟨_, holds, rfl, Nat.le_refl _, .toggled rfl live⟩
  · exact ⟨channel, (toggled.others isOwn).trans found, rfl, Nat.le_refl _, .same⟩

/-- An update toggles a channel, and recovery may follow. -/
theorem Updated.moves {own : Option Nat} {add wait : Bool}
    (updated : Updated exact runlistId own add wait before after) :
    Moves (Updating own add wait) before after := by
  obtain ⟨middle, -, first, recovered, calm⟩ := updated.steps
  have toggles : Moves (Updating own add wait) before middle := by
    rcases first with rfl | ⟨id, rfl, toggled⟩
    · exact (moves_of_same rfl).mono fun _ goes =>
        goes.mono (Nat.le_refl _) fun same => same ▸ .same
    · exact toggled.moves wait
  cases wait with
  | false =>
    exact toggles.trans (calm rfl).rests fun _ first second =>
      first.trans second fun moves same => same ▸ moves
  | true =>
    obtain ⟨_, _, stops, _⟩ := recovered.stops
    refine toggles.trans stops.falls fun _ first second =>
      first.trans second fun moves falls => ?_
    cases falls with
    | same => exact moves
    | marked live =>
      cases moves with
      | same => exact .marked rfl live
      | toggled _ was => exact .marked rfl was
      | marked _ was => exact .marked rfl was

/-- However an operation ends, each channel has gone on as it may; and it ends in an answer, a
refusal or an abort that is allowed. -/
def Conducts (aborts : Abort → Prop) (may : Nat → Channel → Channel → Prop)
    (operation : Operation Scheduler α) (scheduler : Scheduler) : Prop :=
  operation.Yields scheduler (fun _ after => Moves may scheduler after)
    fun failure after => (∀ reason, failure = .aborted reason → aborts reason) ∧
      Moves may scheduler after

/-- No abort is allowed. -/
abbrev Never : Abort → Prop := fun _ => False

/-- A count of events is full. -/
def Posts (scheduler : Scheduler) (reason : Abort) : Prop :=
  reason = .overflow ∧ scheduler.EventsFull

/-- A refusal is no abort. -/
theorem allowed_of_refused {failure : Failure} {aborts : Abort → Prop}
    (refused : ∃ error, failure = .refused error) :
    ∀ reason, failure = .aborted reason → aborts reason := by
  obtain ⟨error, rfl⟩ := refused
  exact fun _ impossible => by cases impossible

/-- More is allowed. -/
theorem Conducts.mono {aborts wider : Abort → Prop} {operation : Operation Scheduler α}
    (conducts : Conducts aborts may operation scheduler)
    (milder : ∀ reason, aborts reason → wider reason)
    (weaker : ∀ {id : Nat} {one two : Channel}, scheduler.channels[id]? = some one →
      may id one two → both id one two) : Conducts wider both operation scheduler :=
  Yields.mono conducts (fun _ _ moves => moves.mono weaker) fun _ _ ⟨allowed, moves⟩ =>
    ⟨fun reason same => milder reason (allowed reason same), moves.mono weaker⟩

/-- An answer of its own. -/
theorem Conducts.answering {aborts : Abort → Prop} {operation : Operation Scheduler α} (value : β)
    (conducts : Conducts aborts may operation scheduler) :
    Conducts aborts may (operation *> pure value) scheduler := by
  unfold Conducts
  rw [yields_seqRight]
  exact conducts

/-- A changed answer. -/
theorem Conducts.map {aborts : Abort → Prop} {operation : Operation Scheduler α} (change : α → β)
    (conducts : Conducts aborts may operation scheduler) :
    Conducts aborts may (change <$> operation) scheduler := by
  unfold Conducts
  rw [yields_map]
  exact conducts

/-- What stops channels at most lets them fall, and never aborts. -/
theorem Ceases.conducts {operation : Operation Scheduler α}
    (ceases : Ceases exact operation scheduler) :
    Conducts Never (Falling 0) operation scheduler := by
  have falls : ∀ after, Ceased exact scheduler after → Moves (Falling 0) scheduler after := by
    rintro after ⟨_, _, stops⟩
    exact stops.falls
  exact Yields.mono ceases (fun _ => falls) fun _ after ⟨refused, ceased⟩ =>
    ⟨allowed_of_refused refused, falls after ceased⟩

/-- What the hardware answers lets the channels rest. -/
theorem conducts_onBus {operation : Operation Bus α} {answer : α → Bus → Prop}
    (answers : operation.Yields scheduler.machine.bus answer fun _ _ => False) :
    Conducts Never (Resting 0) (onBus operation) scheduler := by
  unfold Conducts onBus
  rw [yields_focus]
  exact answers.mono (fun _ _ _ => moves_of_same rfl) fun _ _ => False.elim

/-- An operation answers or refuses, from whatever state. -/
def Refuses (operation : Operation Scheduler α) : Prop :=
  ∀ scheduler : Scheduler, operation.Yields scheduler (fun _ _ => True)
    fun failure _ => ∃ error, failure = .refused error

/-- One operation after another. -/
theorem Refuses.bind {operation : Operation Scheduler α} {next : α → Operation Scheduler β}
    (first : Refuses operation) (second : ∀ value, Refuses (next value)) :
    Refuses (operation >>= next) := by
  intro scheduler
  rw [yields_bind]
  exact (first scheduler).imp fun value after _ => second value after

/-- An answer. -/
theorem refuses_pure (value : α) : Refuses (pure value) := fun _ => trivial

/-- The state is read. -/
theorem refuses_get : Refuses (get : Operation Scheduler Scheduler) := fun _ => trivial

/-- The state is changed. -/
theorem refuses_modify (change : Scheduler → Scheduler) :
    Refuses (modify change : Operation Scheduler PUnit) := fun _ => trivial

/-- What follows a refusal does not run. -/
theorem refuses_refuse_bind (error : Error) (next : α → Operation Scheduler β) :
    Refuses (refuse error >>= next) := fun _ => ⟨error, rfl⟩

/-- A channel that is named is looked up. -/
theorem refuses_channel (id : Nat) : Refuses (Scheduler.channel id) := by
  intro scheduler
  rw [yields_channel]
  split
  · trivial
  · exact ⟨_, rfl⟩

/-- A group that is named is looked up. -/
theorem refuses_group (id : Nat) : Refuses (Scheduler.group id) := by
  intro scheduler
  rw [yields_group]
  split
  · split
    · trivial
    · exact ⟨_, rfl⟩
  · exact ⟨_, rfl⟩

/-- A runlist that is named is looked up. -/
theorem refuses_runlist (id : Nat) : Refuses (Scheduler.runlist id) := by
  intro scheduler
  rw [yields_runlist]
  split
  · trivial
  · exact ⟨_, rfl⟩

/-- The first number of a pool is looked up. -/
theorem refuses_takeFirst (pool : IdPool) : Refuses (takeFirst pool) := by
  intro scheduler
  unfold takeFirst
  split
  · trivial
  · exact ⟨_, rfl⟩

/-- What refuses at most and lets the channels rest. -/
theorem Refuses.conducts {operation : Operation Scheduler α} (refuses : Refuses operation)
    (rests : Respects (Moves (Resting 0)) operation) :
    Conducts Never (Resting 0) operation scheduler :=
  ((refuses scheduler).and (respects_iff_yields.mp rests scheduler)).mono
    (fun _ _ => And.right) fun _ _ ⟨refused, rests⟩ => ⟨allowed_of_refused refused, rests⟩

/-- What refuses at most and only reads. -/
theorem Refuses.conducts_of_reads {operation : Operation Scheduler α} (refuses : Refuses operation)
    (reads : Reads operation) : Conducts Never (Resting 0) operation scheduler :=
  refuses.conducts reads.respects

/-- A group is changed. -/
theorem refuses_changeGroup (id : Nat) (change : Group → Group) :
    Refuses (changeGroup id change) := refuses_modify _

/-- The channels rest meanwhile. -/
theorem rests_changeGroup (id : Nat) (change : Group → Group) :
    Respects (Moves (Resting 0)) (changeGroup id change) :=
  respects_modify fun _ => moves_of_same rfl

/-- A group is set up. -/
theorem conducts_createGroup (list : Nat) :
    Conducts Never (Resting 0) (createGroup list) scheduler := by
  have takes : ∀ pool : IdPool, Respects (Moves (Resting 0))
      (modify fun scheduler => { scheduler with freeGroups := pool }) :=
    fun _ => respects_modify fun _ => moves_of_same rfl
  refine Refuses.conducts ?_ ?_
  · refine (refuses_runlist list).bind fun _ => refuses_get.bind fun read => ?_
    refine (refuses_takeFirst _).bind fun taken => (refuses_modify _).bind fun _ => ?_
    exact refuses_get.bind fun _ => (refuses_changeGroup _ _).bind fun _ => refuses_pure _
  · refine (reads_runlist list).respects.bind fun _ => respects_get.bind fun read => ?_
    refine (reads_takeFirst _).respects.bind fun taken => (takes taken.2).bind fun _ => ?_
    exact respects_get.bind fun _ => (rests_changeGroup taken.1 _).bind fun _ => respects_pure _

/-- A group is given up. -/
theorem conducts_destroyGroup (group : Nat) :
    Conducts Never (Resting 0) (destroyGroup group) scheduler := by
  refine Refuses.conducts ((refuses_group group).bind fun held => ?_)
    ((reads_group group).respects.bind fun held => ?_)
  · dsimp only
    split
    · exact refuses_refuse_bind _ _
    · exact (refuses_changeGroup _ _).bind fun _ => refuses_modify _
  · dsimp only
    split
    · exact respects_refuse_bind _ _
    · exact (rests_changeGroup _ _).bind fun _ => respects_modify fun _ => moves_of_same rfl

/-- The timeslice of a group is set. -/
theorem conducts_setTimeslice (group : Nat) (timeslice : Timeslice) :
    Conducts Never (Resting 0) (setTimeslice group timeslice) scheduler :=
  Refuses.conducts ((refuses_group group).bind fun _ => refuses_modify _)
    ((reads_group group).respects.bind fun _ => rests_changeGroup _ _)

/-- An event is posted. -/
theorem conducts_notify (found : scheduler.channels[id]? = some channel) :
    Conducts scheduler.Posts (Resting 1) (notify id) scheduler := by
  refine (yields_notify found).mono ?_ ?_
  · rintro _ _ rfl
    refine moves_changed (fun holds => ?_) fun _ => ⟨rfl, Nat.le_succ _, rfl⟩
    cases found.symm.trans holds
    exact ⟨rfl, Nat.le_refl _, rfl⟩
  · rintro _ _ ⟨rfl, full, rfl⟩
    refine ⟨?_, (moves_of_same rfl : Moves (Resting 0) _ _).posts (Nat.zero_le 1)⟩
    rintro _ ⟨⟩
    exact ⟨rfl, id, channel, found, full⟩

/-- Servicing an interrupt lets channels fall and posts an event to each at most. -/
theorem conducts_handleInterrupts (sound : scheduler.Sound exact) (status : UInt32) :
    Conducts scheduler.Posts (Falling 1) (handleInterrupts status) scheduler := by
  have goes : ∀ after, (∃ stopped, stopped.Sound exact ∧
      Stops Set.univ (scheduler.interruptContexts status) (scheduler.interruptContexts status)
        scheduler stopped ∧ Notified stopped after) → Moves (Falling 1) scheduler after := by
    rintro after ⟨stopped, _, stops, notified⟩
    exact stops.falls.falls_trans notified.rests.falls
  refine (yields_handleInterrupts sound status).mono (fun _ => goes) ?_
  rintro _ after ⟨⟨rfl, full⟩, stopped⟩
  refine ⟨?_, goes after stopped⟩
  rintro _ ⟨⟩
  exact ⟨rfl, full⟩

/-- Servicing the pending interrupts does no more. -/
theorem conducts_serviceInterrupts (sound : scheduler.Sound exact) :
    Conducts scheduler.Posts (Falling 1) serviceInterrupts scheduler := by
  unfold Conducts serviceInterrupts
  rw [yields_bind]
  refine (yields_onBus (Bus.serves_read _)).mono ?_ fun _ _ => False.elim
  rintro status _ ⟨_, bus, rfl, spares⟩
  have driven : Driven ∅ scheduler
      { scheduler with machine := { scheduler.machine with bus } } := ⟨bus, rfl, spares⟩
  have same : Moves (Resting 0) scheduler
      { scheduler with machine := { scheduler.machine with bus } } := moves_of_same rfl
  split
  · exact same.falls.posts (Nat.zero_le 1)
  · refine Yields.mono (conducts_handleInterrupts (driven.sound sound) status) ?_ ?_
    · exact fun _ _ moves => same.falls.falls_trans moves
    · exact fun _ _ ⟨allowed, moves⟩ => ⟨allowed, same.falls.falls_trans moves⟩

/-- What a waiter finds is read. -/
theorem conducts_waitOutcome (found : scheduler.channels[id]? = some channel) (seen : Nat) :
    Conducts Never (Resting 0) (waitOutcome id seen) scheduler := by
  unfold Conducts waitOutcome channelAt
  rw [yields_bind, yields_bind, yields_get, yields_entry found]
  dsimp only
  split
  · exact ⟨allowed_of_refused ⟨_, rfl⟩, moves_of_same rfl⟩
  · split
    · exact ⟨allowed_of_refused ⟨_, rfl⟩, moves_of_same rfl⟩
    · exact moves_of_same rfl

/-- A waiter that is woken. -/
theorem conducts_waitWoken (sound : scheduler.Sound exact)
    (found : scheduler.channels[id]? = some channel) (waker : Waker) :
    Conducts scheduler.Posts (Falling 1) (waitWoken id waker) scheduler := by
  have looks : ∀ after, Moves (Falling 1) scheduler after →
      (waitOutcome id channel.events).Yields after
        (fun _ last => Moves (Falling 1) scheduler last)
        fun failure last => (∀ reason, failure = .aborted reason → scheduler.Posts reason) ∧
          Moves (Falling 1) scheduler last := by
    intro after moves
    obtain ⟨next, holds, _⟩ := moves.found found
    refine Yields.mono (conducts_waitOutcome holds channel.events) ?_ ?_
    · exact fun _ _ rests => moves.falls_trans rests.falls
    · rintro _ _ ⟨allowed, rests⟩
      exact ⟨fun reason same => (allowed reason same).elim, moves.falls_trans rests.falls⟩
  have wakes : ∀ act : Operation Scheduler Unit,
      Conducts scheduler.Posts (Falling 1) act scheduler →
      Conducts scheduler.Posts (Falling 1) (act >>= fun _ => waitOutcome id channel.events)
        scheduler := by
    intro act conducts
    unfold Conducts
    rw [yields_bind]
    exact Yields.imp conducts fun _ => looks
  have posted : ∀ {act : Operation Scheduler Unit}, Conducts Never (Falling 0) act scheduler →
      Conducts scheduler.Posts (Falling 1) act scheduler := fun conducts =>
    conducts.mono (fun _ => False.elim) fun _ goes => goes.mono (Nat.zero_le 1) fun falls => falls
  unfold Conducts waitWoken channelAt
  rw [yields_bind, yields_bind, yields_get, yields_entry found]
  cases waker with
  | notification =>
    exact wakes _ (Conducts.mono (conducts_notify found) (fun _ allowed => allowed)
      fun _ goes => goes.mono (Nat.le_refl 1) fun same => same ▸ .same)
  | interrupt =>
    have services := (conducts_handleInterrupts sound Interrupt.channel).map fun _ => ()
    have act := wakes _ services
    rw [← bind_pure_comp, bind_assoc] at act
    exact act
  | recovery => exact wakes _ (posted (ceases_recoverChannel sound id .forced).disregard.conducts)

/-- One channel goes on in its own way. -/
abbrev Apart (id : Nat) (own others : Channel → Channel → Prop) : Nat → Channel → Channel → Prop :=
  fun other before after =>
    (other = id → own before after) ∧ (other ≠ id → others before after)

/-- One channel is changed, and the others rest. -/
theorem moves_apart {own : Channel → Channel → Prop} {change : Channel → Channel}
    (changes : ∀ {channel}, scheduler.channels[id]? = some channel →
      own channel (change channel)) :
    Moves (Apart id own (Channel.Goes Eq 0)) scheduler
      { scheduler with channels := scheduler.channels.modify id change } := by
  refine moves_changed (fun found => ⟨fun _ => changes found, fun apart => absurd rfl apart⟩) ?_
  exact fun apart => ⟨fun own => absurd own apart, fun _ => ⟨rfl, Nat.le_refl _, rfl⟩⟩

/-- A reference to one channel is taken; the count wraps around. -/
abbrev Sharing (id : Nat) : Nat → Channel → Channel → Prop :=
  Apart id (fun before after => after = { before with references := before.references + 1 })
    (Channel.Goes Eq 0)

/-- A slot is bound. -/
abbrev Binds (id : Nat) : Nat → Channel → Channel → Prop :=
  Apart id (fun before after => before.state = .free ∧ after.references = 1 ∧
    after.state = .bound ∧ after.events = 0) (Channel.Goes Eq 0)

/-- The fault of a channel is cleared. -/
abbrev Clears (id : Nat) : Nat → Channel → Channel → Prop :=
  Apart id (Channel.Goes (fun before after => before = .faulted ∧ after = .bound) 0)
    (Channel.Goes Eq 0)

/-- A slot becomes free. -/
abbrev Frees (id : Nat) (others : ChannelState → ChannelState → Prop) :
    Nat → Channel → Channel → Prop :=
  Apart id (Channel.Goes (fun _ after => after = .free) 0) (Channel.Goes others 0)

/-- A reference to one channel is given back. The last one frees the slot. -/
abbrev Dropping (id : Nat) : Nat → Channel → Channel → Prop :=
  Apart id (fun before after => after.references = before.references - 1 ∧
      after.events ≤ before.events ∧
      after.state = if before.references = 1 then .free else before.state)
    (Channel.Goes ChannelState.Falls 0)

/-- A reference is taken to a channel that has one. -/
theorem yields_retain (scheduler : Scheduler) (id : Nat) :
    (retain id).Yields scheduler
      (fun _ after => Moves (Sharing id) scheduler after ∧
        ∃ channel, scheduler.channels[id]? = some channel ∧ channel.references ≠ 0)
      fun failure after => after = scheduler ∧ ((∃ error, failure = .refused error) ∨
        failure = .aborted .overflow ∧
          ∃ channel, scheduler.channels[id]? = some channel ∧ channel.references = 0xffffffff) := by
  unfold retain
  rw [yields_bind, yields_channel]
  cases found : scheduler.channels[id]? with
  | none => exact ⟨rfl, .inl ⟨_, rfl⟩⟩
  | some channel =>
    dsimp only
    split
    · exact ⟨rfl, .inl ⟨_, rfl⟩⟩
    · split
      · rename_i full
        exact ⟨rfl, .inr ⟨rfl, channel, rfl, full⟩⟩
      · rename_i shared _
        refine ⟨moves_apart fun holds => ?_, channel, rfl, shared⟩
        cases found.symm.trans holds
        rfl

/-- A reference is taken beside one that is held. -/
theorem yields_duplicate (scheduler : Scheduler) (id : Nat) :
    (duplicate id).Yields scheduler (fun _ after => Moves (Sharing id) scheduler after)
      fun _ _ => False :=
  moves_apart fun _ => rfl

/-- A slot is taken out of the pool, if it can be. -/
theorem refuses_takeSlot (slot : Option Nat) : Refuses (takeSlot slot) := by
  cases slot with
  | none =>
    exact refuses_get.bind fun _ => (refuses_takeFirst _).bind fun _ =>
      (refuses_modify _).bind fun _ => refuses_pure _
  | some id =>
    refine (refuses_channel id).bind fun _ => refuses_get.bind fun read => ?_
    split
    · exact refuses_refuse_bind _ _
    · exact (refuses_modify _).bind fun _ => refuses_pure _

/-- A slot of a sound scheduler has registers. -/
theorem Sound.channel_lt (sound : scheduler.Sound exact)
    (found : scheduler.channels[id]? = some channel) : id < 4096 := by
  have below := sound.shaped.channel_lt found
  have most := (Config.fits_of_fault sound.shaped.accepted).1
  omega

/-- A free slot is bound, or nothing happens. -/
theorem yields_binds (sound : scheduler.Sound exact) (binding : Binding) :
    (Scheduler.bind binding).Yields scheduler
      (fun id after => Moves (Binds id) scheduler after ∧
        ∃ channel, scheduler.channels[id]? = some channel ∧ channel.state = .free)
      fun failure after => (∃ error, failure = .refused error) ∧ after = scheduler := by
  unfold Scheduler.bind
  rw [yields_bind, yields_runlist]
  cases scheduler.runlists.find? binding.runlist with
  | none => exact ⟨⟨_, rfl⟩, rfl⟩
  | some runlist =>
    dsimp only
    rw [yields_bind]
    refine ((refuses_takeSlot binding.slot scheduler).and
      (yields_takeSlot binding.slot)).mono ?_ fun _ _ => id
    rintro id _ ⟨-, free, rfl⟩
    obtain ⟨_, holds, isFree⟩ := sound.consistent.freeChannel.mp free
    obtain ⟨channel, found, rfl⟩ := Option.map_eq_some_iff.mp holds
    have below := sound.channel_lt found
    unfold changeChannel
    rw [yields_bind, yields_modify, yields_bind]
    refine (yields_onBus (Device.serves_bindChannel below _)).mono ?_ fun _ _ => False.elim
    rintro _ _ ⟨-, bus, rfl, -⟩
    refine ⟨⟨(moves_apart fun holds => ?_ : Moves (Binds id) scheduler _).found⟩,
      channel, found, isFree⟩
    cases found.symm.trans holds
    exact ⟨isFree, rfl, rfl, rfl⟩

/-- A channel in the table is read as it is. -/
theorem conducts_channelAt (found : scheduler.channels[id]? = some channel) :
    Conducts Never (Resting 0) (channelAt id) scheduler := by
  unfold Conducts channelAt
  rw [yields_bind, yields_get, yields_entry found]
  exact moves_of_same rfl

/-- A channel is enabled unless it is faulted. -/
theorem conducts_enableChannel (sound : scheduler.Sound exact)
    (found : scheduler.channels[id]? = some channel) :
    Conducts Never (Resting 0) (enableChannel id) scheduler := by
  unfold Conducts enableChannel channelAt
  rw [yields_bind, yields_bind, yields_get, yields_entry found]
  dsimp only
  split
  · exact ⟨allowed_of_refused ⟨_, rfl⟩, moves_of_same rfl⟩
  · exact conducts_onBus (Device.serves_enableChannel (sound.channel_lt found))

/-- A faulted channel is not enabled. -/
theorem enableChannel_faulted (found : scheduler.channels[id]? = some channel)
    (faulted : channel.state = .faulted) :
    enableChannel id scheduler = (.error (.refused (.channelFaulted id)), scheduler) := by
  have read : (get : Operation Scheduler Scheduler) scheduler = (.ok scheduler, scheduler) := rfl
  have held : channelAt id scheduler = (.ok channel, scheduler) := by
    unfold channelAt
    rw [run_bind_of_ok read]
    unfold entry
    rw [found]
    rfl
  unfold enableChannel
  rw [run_bind_of_ok held]
  dsimp only
  rw [if_pos faulted]
  rfl

/-- What a waiter finds when its time is over, if the clock can tell when that is. -/
theorem conducts_waitEvent (found : scheduler.channels[id]? = some channel) (timeout : Nat) :
    Conducts (fun _ => scheduler.clock.tells timeout = false) (Resting 0) (waitEvent id timeout)
      scheduler := by
  unfold Conducts waitEvent channelAt
  rw [yields_bind, yields_get]
  cases scheduler.clock.tells timeout with
  | false => exact ⟨fun _ _ => rfl, moves_of_same rfl⟩
  | true =>
    change (_ >>= _ : Operation Scheduler Unit).Yields scheduler _ _
    rw [yields_bind, yields_bind, yields_get, yields_entry found]
    refine Yields.mono (conducts_waitOutcome found channel.events) (fun _ _ moves => moves) ?_
    exact fun _ _ ⟨never, moves⟩ => ⟨fun reason same => (never reason same).elim, moves⟩

/-- An update toggles a channel at most, and recovery may follow. A refusal for another reason than
that the hardware does not pick the list up leaves everything as it is. -/
theorem yields_updates (sound : scheduler.Sound exact) (own : Option Nat) (add wait : Bool) :
    (updateRunlist runlistId own add wait).Yields scheduler
      (fun _ after => Moves (Updating own add wait) scheduler after)
      fun failure after => (∃ error, failure = .refused error) ∧
        Moves (Updating own add wait) scheduler after ∧
        (after = scheduler ∨
          failure = .refused (.runlistUpdateFailed runlistId) ∧ wait = true) := by
  refine ((yields_updateRunlist sound own add wait).and
    (yields_updateRunlist_fails _ sound own add wait)).mono ?_ ?_
  · exact fun _ _ ⟨updated, _⟩ => updated.moves
  · rintro failure after ⟨⟨refused, updated⟩, _, other, late⟩
    refine ⟨refused, updated.moves, ?_⟩
    by_cases overdue : failure = .refused (.runlistUpdateFailed runlistId)
    · exact .inr ⟨overdue, (late overdue).1⟩
    · exact .inl (other overdue)

/-- The fault of a faulted channel is cleared, or nothing happens. -/
theorem yields_acknowledges (sound : scheduler.Sound exact)
    (found : scheduler.channels[id]? = some channel) :
    (acknowledgeFault id).Yields scheduler
      (fun _ after => Moves (Clears id) scheduler after)
      fun failure after => (∃ error, failure = .refused error) ∧ after = scheduler := by
  unfold acknowledgeFault channelAt
  rw [yields_bind, yields_bind, yields_get, yields_entry found]
  split
  · exact ⟨⟨_, rfl⟩, rfl⟩
  · rename_i faulted
    have isFaulted : channel.state = .faulted := not_not.mp faulted
    rw [yields_bind]
    refine (yields_updates sound (some id) false false).mono ?_ ?_
    · intro _ updated moves
      refine moves.trans (?_ : Moves (Apart id (Channel.Goes (fun _ after => after = .bound) 0)
        (Channel.Goes Eq 0)) updated _) fun {other first _ _} holds one two => ?_
      · exact moves_apart fun _ => ⟨rfl, Nat.le_refl _, rfl⟩
      refine ⟨?_, fun apart => one.trans (two.2 apart) fun updates same => ?_⟩
      · rintro rfl
        cases found.symm.trans holds
        have goes : Channel.Goes (fun _ after => after = .bound) 0 _ _ :=
          one.trans (two.1 rfl) fun _ bound => bound
        exact ⟨goes.references, goes.events, isFaulted, goes.state⟩
      · cases updates with
        | same => exact same
        | toggled isOwn _ => exact absurd (Option.some.inj isOwn).symm apart
        | marked waits _ => cases waits
    · rintro _ after ⟨refused, _, same | ⟨_, waits⟩⟩
      · exact ⟨refused, same⟩
      · cases waits

/-- The channels rest while the hardware works. -/
theorem still_onBus (operation : Operation Bus α) :
    Respects (Moves (Resting 0)) (onBus operation) := fun _ => moves_of_same rfl

/-- The channels rest while an engine is switched. -/
theorem rests_enableEngine (id : Nat) : Respects (Moves (Resting 0)) (enableEngine id) := by
  refine (reads_engine id).respects.bind fun engine => ?_
  refine (respects_lift _).bind fun lists => ?_
  unfold setSchedulerDisabled
  split
  · exact respects_pure _
  · exact still_onBus _

/-- An operation that never aborts and lets the channels rest. -/
theorem Ceases.conducts_resting {operation : Operation Scheduler α}
    (ceases : Ceases exact operation scheduler) (rests : Respects (Moves (Resting 0)) operation) :
    Conducts Never (Resting 0) operation scheduler :=
  (Yields.and ceases (respects_iff_yields.mp rests scheduler)).mono (fun _ _ => And.right)
    fun _ _ ⟨⟨refused, _⟩, rests⟩ => ⟨allowed_of_refused refused, rests⟩

/-- An engine is enabled. -/
theorem conducts_enableEngine (sound : scheduler.Sound exact) (id : Nat) :
    Conducts Never (Resting 0) (enableEngine id) scheduler :=
  (ceases_enableEngine sound id).conducts_resting (rests_enableEngine id)

/-- All engines are enabled. -/
theorem conducts_enableAllEngines (sound : scheduler.Sound exact) :
    Conducts Never (Resting 0) enableAllEngines scheduler :=
  (ceases_enableAllEngines sound).conducts_resting
    (respects_get.bind fun _ => respects_forM (fun _ => rests_enableEngine _) _)

/-- A channel is put into a group. -/
theorem conducts_joinGroup (found : scheduler.channels[id]? = some channel) (group : Nat) :
    Conducts Never (Resting 0) (joinGroup group id) scheduler := by
  unfold Conducts joinGroup channelAt
  rw [yields_bind]
  refine (((refuses_group group) scheduler).and (reads_group group scheduler)).mono ?_ ?_
  · rintro held _ ⟨-, rfl⟩
    rw [yields_bind, yields_bind, yields_get, yields_entry found, yields_bind]
    refine ((refuses_runlist channel.runlist _).and (reads_runlist channel.runlist _)).mono ?_ ?_
    · rintro _ _ ⟨-, rfl⟩
      rename_i scheduler
      have refusal : ∀ error : Error, (∀ reason, Failure.refused error = .aborted reason →
          Never reason) ∧ Moves (Resting 0) scheduler scheduler := fun error =>
        ⟨allowed_of_refused ⟨error, rfl⟩, moves_of_same rfl⟩
      dsimp only
      split
      · exact refusal _
      · split
        · exact refusal _
        · cases channel.group with
          | some other => exact refusal _
          | none =>
            have joins : Moves (Resting 0) scheduler { scheduler with
                channels := scheduler.channels.modify id ({ · with group := some group }) } :=
              rests_changed fun _ => ⟨rfl, Nat.le_refl _, rfl⟩
            exact ⟨joins.found⟩
    · rintro _ _ ⟨refused, rfl⟩
      exact ⟨allowed_of_refused refused, moves_of_same rfl⟩
  · rintro _ _ ⟨refused, rfl⟩
    exact ⟨allowed_of_refused refused, moves_of_same rfl⟩

/-- The channels rest while one leaves a group. -/
theorem rests_removeMember (id groupId : Nat) :
    Respects (Moves (Resting 0)) (removeMember id groupId) := by
  have looks := reads_get.bind fun scheduler => reads_entry scheduler.groups groupId
  refine looks.respects.bind fun _ => (rests_changeGroup _ _).bind fun _ => ?_
  exact respects_modify fun _ => rests_changed fun _ => ⟨rfl, Nat.le_refl _, rfl⟩

/-- A channel leaves its group, and first its runlist. -/
theorem conducts_leaveGroup (intact : scheduler.Intact False)
    (found : scheduler.channels[id]? = some channel) :
    Conducts Never (Updating (some id) false true) (leaveGroup id) scheduler := by
  have leaves : ∀ {middle : Scheduler} {held : Channel} {groupId : Nat}, middle.Intact False →
      middle.channels[id]? = some held → held.group = some groupId →
      (removeMember id groupId).Yields middle (fun _ after => Moves (Resting 0) middle after)
        fun _ _ => False := fun intact holds grouped =>
    ((yields_removeMember intact holds grouped False.elim).also (rests_removeMember _ _)).imp
      fun _ _ => And.right
  have still : Moves (Updating (some id) false true) scheduler scheduler :=
    (moves_of_same rfl : Moves (Resting 0) scheduler scheduler).mono fun _ goes =>
      goes.mono (Nat.le_refl _) fun same => same ▸ .same
  unfold Conducts leaveGroup channelAt
  rw [yields_bind, yields_bind, yields_get, yields_entry found]
  cases grouped : channel.group with
  | none => exact ⟨allowed_of_refused ⟨_, rfl⟩, still⟩
  | some groupId =>
    dsimp only
    split
    · rw [yields_bind]
      refine ((yields_updateRunlist intact.sound (some id) false true).and
        (yields_updates intact.sound (some id) false true)).mono ?_ ?_
      · rintro _ middle ⟨updated, moves⟩
        obtain ⟨held, holds, core⟩ := updated.toSteady.channel_found found
        refine (leaves (intact.updated False.elim updated) holds
          ((group_eq_of_core core).trans grouped)).mono ?_ fun _ _ => False.elim
        exact fun _ after rests => moves.trans rests fun _ first second =>
          first.trans second fun updates same => same ▸ updates
      · exact fun _ _ ⟨_, refused, moves, _⟩ => ⟨allowed_of_refused refused, moves⟩
    · refine (leaves intact found grouped).mono ?_ fun _ _ => False.elim
      exact fun _ after rests => still.trans rests fun _ first second =>
        first.trans second fun updates same => same ▸ updates

/-- The slot of a channel becomes free. -/
theorem yields_freeSlot (sound : scheduler.Sound exact)
    (found : scheduler.channels[id]? = some channel) :
    (freeSlot id).Yields scheduler (fun _ after => Moves (Frees id Eq) scheduler after)
      fun _ _ => False := by
  have below := sound.channel_lt found
  unfold freeSlot
  rw [yields_bind, onBus, yields_focus]
  refine (Device.disables_channel below).imp fun _ disabled _ => ?_
  rw [yields_bind, onBus, yields_focus]
  refine (Device.unbinds_channel below).imp fun _ unbound _ => ?_
  have frees : Moves (Frees id Eq) scheduler
      { scheduler with channels := scheduler.channels.modify id Channel.reset } :=
    moves_apart fun _ => ⟨rfl, Nat.zero_le _, rfl⟩
  exact ⟨frees.found⟩

/-- A channel in no active set leaves its group and its slot. -/
theorem yields_leaveSlot (intact : scheduler.Intact False)
    (found : scheduler.channels[id]? = some channel) :
    (leaveSlot id channel.group).Yields scheduler
      (fun _ after => Moves (Frees id Eq) scheduler after) fun _ _ => False := by
  cases grouped : channel.group with
  | none => exact yields_freeSlot intact.sound found
  | some groupId =>
    change (removeMember id groupId >>= fun _ => freeSlot id).Yields scheduler _ _
    rw [yields_bind]
    refine ((yields_removeMember intact found grouped False.elim).also
      (rests_removeMember _ _)).imp ?_
    rintro _ middle ⟨⟨kept, _, holds, _⟩, rests⟩
    refine (yields_freeSlot kept.sound holds).imp fun _ _ frees => ?_
    exact rests.trans frees fun _ first second =>
      ⟨fun own => first.trans (second.1 own) fun _ free => free,
        fun apart => first.trans (second.2 apart) Eq.trans⟩

/-- A channel is released. -/
theorem yields_releaseChannel (intact : scheduler.Intact False)
    (found : scheduler.channels[id]? = some channel) :
    (releaseChannel id).Yields scheduler
      (fun _ after => Moves (Frees id ChannelState.Falls) scheduler after) fun _ _ => False := by
  have leaves : ∀ updated, Updated False channel.runlist (some id) false true scheduler updated →
      (runDeferredResets id channel.group >>= fun _ => leaveSlot id channel.group).Yields updated
        (fun _ after => Moves (Frees id ChannelState.Falls) scheduler after)
        fun _ _ => False := by
    intro updated update
    have kept := intact.updated False.elim update
    obtain ⟨changed, holds, core, _⟩ := update.off_everywhere found rfl
    rw [yields_bind]
    refine (yields_runDeferredResets kept.sound id channel.group).imp ?_
    rintro _ reset ⟨soundReset, stops⟩
    obtain ⟨last, holdsLast, coreLast⟩ := stops.toSteady.channel_found holds
    rw [← group_eq_of_core (coreLast.trans core)]
    refine (yields_leaveSlot (kept.stops soundReset stops) holdsLast).imp fun _ after frees => ?_
    have rests : Moves (Frees id Eq) updated after := stops.rests.trans frees fun _ first second =>
      ⟨fun own => first.trans (second.1 own) fun _ free => free,
        fun apart => first.trans (second.2 apart) Eq.trans⟩
    refine update.moves.trans rests fun _ first second =>
      ⟨fun own => first.trans (second.1 own) fun _ free => free,
        fun apart => first.trans (second.2 apart) fun updates same => ?_⟩
    subst same
    cases updates with
    | same => exact .same
    | toggled own _ => exact absurd (Option.some.inj own).symm apart
    | marked _ live => exact .marked live
  rw [releaseChannel_eq, channelAt, yields_bind, yields_bind, yields_get, yields_entry found,
    yields_bind, yields_disregard]
  refine (yields_updateRunlist intact.sound (some id) false true).mono (fun _ => leaves) ?_
  rintro _ updated ⟨⟨error, rfl⟩, update⟩
  exact leaves updated update

/-- A reference is given back. That of a channel without references aborts. -/
theorem yields_drop (intact : scheduler.Intact False)
    (found : scheduler.channels[id]? = some channel) :
    (drop id).Yields scheduler (fun _ after => Moves (Dropping id) scheduler after)
      fun failure after => failure = .aborted (.referenceUnderflow id) ∧ channel.references = 0 ∧
        Moves (Dropping id) scheduler after := by
  let counted : Scheduler :=
    { scheduler with
      channels := scheduler.channels.modify id
        ({ · with references := channel.references - 1 }) }
  have kept : counted.Intact False := intact.changeChannel fun _ => rfl
  have counts : Moves (Apart id (fun before after => before = channel ∧
      after = { channel with references := channel.references - 1 }) (Channel.Goes Eq 0))
      scheduler counted := by
    refine moves_apart fun holds => ?_
    cases found.symm.trans holds
    exact ⟨rfl, rfl⟩
  have shared : channel.references ≠ 1 → Moves (Dropping id) scheduler counted := by
    refine fun more => counts.mono fun _ goes =>
      ⟨fun own => ?_, fun apart => (goes.2 apart).mono (Nat.le_refl _) fun same => same ▸ .same⟩
    obtain ⟨rfl, rfl⟩ := goes.1 own
    exact ⟨rfl, Nat.le_refl _, (if_neg more).symm⟩
  unfold drop channelAt changeChannel
  rw [yields_bind, yields_bind, yields_get, yields_entry found, yields_bind, yields_modify]
  dsimp only
  split
  · rename_i none
    exact ⟨rfl, none, shared (by rw [none]; decide)⟩
  · split
    · rename_i last
      have holds : counted.channels[id]? =
          some { channel with references := channel.references - 1 } := by
        refine Array.getElem?_modify.trans ?_
        rw [if_pos rfl, found]
        rfl
      refine (yields_releaseChannel kept holds).mono ?_ fun _ _ => False.elim
      intro _ after frees
      refine counts.trans frees fun _ first second => ⟨fun own => ?_, fun apart =>
        (first.2 apart).trans (second.2 apart) fun same falls => same ▸ falls⟩
      obtain ⟨rfl, rfl⟩ := first.1 own
      have goes := second.1 own
      exact ⟨goes.references, goes.events, by rw [if_pos last]; exact goes.state⟩
    · rename_i more
      exact shared more

end Scheduler

end GpuSched
