import GpuSched.Proofs.Scheduler.Creation
import GpuSched.Proofs.Scheduler.Lifecycle
import GpuSched.Scheduler.Session

/-!
# Runs of sessions

A run makes requests one after the other, from a scheduler that has been created. Each request keeps
the scheduler intact however it ends, so every session that a run reaches has an intact scheduler:
its redundant records of who is active, grouped and in use agree.
-/
namespace GpuSched

open Operation

namespace Session

variable {exact : Prop} {session : Session} {α : Type}

/-- However an operation ends, the scheduler of the session is intact, with the same
configuration. -/
def Keeps (exact : Prop) (operation : Operation Session α) (session : Session) : Prop :=
  operation.Yields session
    (fun _ after => after.scheduler.Intact exact ∧
      after.scheduler.config = session.scheduler.config)
    fun _ after => after.scheduler.Intact exact ∧
      after.scheduler.config = session.scheduler.config

/-- A reply leaves the session as it is. -/
theorem keeps_reply (intact : session.scheduler.Intact exact) (reply : Reply) :
    Keeps exact (pure reply : Operation Session Reply) session := ⟨intact, rfl⟩

/-- A call of the scheduler. -/
theorem keeps_call {operation : Operation Scheduler α}
    (keeps : Scheduler.Keeps exact operation session.scheduler) :
    Keeps exact (call operation) session := by
  unfold Keeps call
  rw [yields_focus]
  exact keeps

/-- A call that stops channels at most. -/
theorem keeps_ceasing {operation : Operation Scheduler α} {reply : Reply}
    (intact : session.scheduler.Intact exact)
    (ceases : Scheduler.Ceases exact operation session.scheduler) :
    Keeps exact (call (operation *> pure reply)) session :=
  keeps_call ((ceases.keeps intact).answering reply)

/-- What is done with the channel under a handle. -/
theorem keeps_withHandle {act : Nat → Operation Session Reply}
    (intact : session.scheduler.Intact exact) (handle : Nat)
    (each : ∀ channel, Keeps exact (act channel) session) :
    Keeps exact (withHandle handle act) session := by
  unfold Keeps withHandle
  rw [yields_bind, yields_get]
  split
  · exact each _
  · exact keeps_reply intact _

/-- A call for the channel under a handle. -/
theorem keeps_onHandle {operation : Nat → Operation Scheduler Reply}
    (intact : session.scheduler.Intact exact) (handle : Nat)
    (each : ∀ channel, Scheduler.Keeps exact (operation channel) session.scheduler) :
    Keeps exact (onHandle handle operation) session :=
  keeps_withHandle intact handle fun channel => keeps_call (each channel)

/-- A reference that is acquired and filed. -/
theorem keeps_file {acquire : Operation Session Nat} (intact : session.scheduler.Intact exact)
    (handle : Nat) (keeps : Keeps exact acquire session) :
    Keeps exact (file handle acquire) session := by
  unfold Keeps file
  rw [yields_bind, yields_get]
  split
  · exact keeps_reply intact _
  · rw [yields_bind]
    exact Yields.imp keeps fun _ _ => id

/-- A call whose answer is a number. -/
theorem keeps_callThen {operation : Operation Scheduler Unit} (answer : Nat)
    (keeps : Scheduler.Keeps exact operation session.scheduler) :
    Keeps exact (do
      call operation
      return answer) session := by
  unfold Keeps
  rw [yields_bind]
  exact Yields.imp (keeps_call keeps) fun _ _ => id

/-- A reference that is given back. -/
theorem keeps_dropHandle (intact : session.scheduler.Intact exact)
    (trusted : exact → session.scheduler.Trusted) (handle : Nat) :
    Keeps exact (dropHandle handle) session := by
  refine keeps_withHandle intact handle fun channel => ?_
  unfold Keeps
  rw [yields_bind, yields_modify, yields_bind]
  let erased : Session := { session with handles := session.handles.erase handle }
  have drops : Keeps exact (call (Scheduler.drop channel)) erased :=
    keeps_call (Scheduler.keeps_drop intact trusted channel)
  exact Yields.imp drops fun _ _ => id

/-- Every request keeps the scheduler of a session intact. -/
theorem keeps_perform (intact : session.scheduler.Intact exact)
    (trusted : exact → session.scheduler.Trusted) (request : Request) :
    Keeps exact (perform request) session := by
  cases request with
  | bind handle binding =>
    exact keeps_file intact handle (keeps_call (Scheduler.keeps_bind intact binding))
  | retain handle channel =>
    exact keeps_file intact handle (keeps_callThen channel (Scheduler.keeps_retain intact channel))
  | duplicate handle source =>
    unfold Keeps perform
    rw [yields_bind, yields_get]
    split
    · exact keeps_reply intact _
    · exact keeps_withHandle intact source fun channel => keeps_file intact handle
        (keeps_callThen channel (Scheduler.keeps_duplicate intact channel))
  | drop handle => exact keeps_dropHandle intact trusted handle
  | channel handle =>
    exact keeps_onHandle intact handle fun id =>
      (((Scheduler.reads_channelAt id).bind fun _ => Scheduler.reads_pure _).keeps intact)
  | enable handle =>
    refine keeps_onHandle intact handle fun id => Scheduler.Keeps.answering _ ?_
    refine ((Scheduler.reads_channelAt id).keeps intact).bind fun channel _ intact _ => ?_
    dsimp only
    split
    · exact ⟨intact, rfl⟩
    · exact Scheduler.keeps_onBus intact _
  | disable handle =>
    exact keeps_onHandle intact handle fun id =>
      (Scheduler.keeps_onBus intact _).answering Reply.done
  | enabled handle =>
    exact keeps_onHandle intact handle fun id => (Scheduler.keeps_onBus intact _).map Reply.flag
  | acknowledge handle =>
    exact keeps_onHandle intact handle fun id =>
      (Scheduler.keeps_acknowledgeFault intact trusted id).answering Reply.done
  | notify handle =>
    exact keeps_onHandle intact handle fun id =>
      (Scheduler.keeps_notify intact id).answering Reply.done
  | wait handle timeout =>
    exact keeps_onHandle intact handle fun id =>
      ((Scheduler.reads_waitEvent id timeout).keeps intact).answering Reply.woken
  | waitWoken handle waker =>
    exact keeps_onHandle intact handle fun id =>
      (Scheduler.keeps_waitWoken intact id waker).answering Reply.woken
  | join handle group =>
    exact keeps_onHandle intact handle fun id =>
      (Scheduler.keeps_joinGroup intact group id).answering Reply.done
  | leave handle =>
    exact keeps_onHandle intact handle fun id =>
      (Scheduler.keeps_leaveGroup intact trusted id).answering Reply.done
  | state channel =>
    refine keeps_call (Scheduler.Keeps.map Reply.state ?_)
    exact ((Scheduler.reads_channel channel).bind fun _ => Scheduler.reads_pure _).keeps intact
  | update runlist channel add wait =>
    exact keeps_call
      ((Scheduler.keeps_updateRunlist intact trusted channel add wait).answering Reply.done)
  | snapshot runlist =>
    exact keeps_call (((Scheduler.reads_snapshot runlist).keeps intact).map Reply.entries)
  | active runlist =>
    refine keeps_call (Scheduler.Keeps.map Reply.ids ?_)
    exact ((Scheduler.reads_runlist runlist).bind fun _ => Scheduler.reads_pure _).keeps intact
  | createGroup runlist =>
    exact keeps_call ((Scheduler.keeps_createGroup intact runlist).map Reply.id)
  | destroyGroup group =>
    exact keeps_call ((Scheduler.keeps_destroyGroup intact group).answering Reply.done)
  | members group =>
    refine keeps_call (Scheduler.Keeps.map Reply.ids ?_)
    exact ((Scheduler.reads_group group).bind fun _ => Scheduler.reads_pure _).keeps intact
  | timeslice group timeslice =>
    exact keeps_call ((Scheduler.keeps_setTimeslice intact group timeslice).answering Reply.done)
  | preempt target =>
    cases target with
    | channel id => exact keeps_ceasing intact (Scheduler.ceases_preemptChannel intact.sound id)
    | group id => exact keeps_ceasing intact (Scheduler.ceases_preemptGroup intact.sound id)
  | disableEngine engine waitIdle =>
    exact keeps_ceasing intact (Scheduler.ceases_disableEngine intact.sound engine waitIdle)
  | enableEngine engine =>
    exact keeps_ceasing intact (Scheduler.ceases_enableEngine intact.sound engine)
  | disableAll waitIdle =>
    exact keeps_ceasing intact (Scheduler.ceases_disableAllEngines intact.sound waitIdle)
  | enableAll =>
    exact keeps_ceasing intact (Scheduler.ceases_enableAllEngines intact.sound)
  | waitIdle engine =>
    exact keeps_ceasing intact (Scheduler.ceases_waitEngineIdle intact.sound engine)
  | recover target reason =>
    cases target with
    | channel id =>
      exact keeps_ceasing intact (Scheduler.ceases_recoverChannel intact.sound id reason)
    | group id =>
      exact keeps_ceasing intact (Scheduler.ceases_recoverGroup intact.sound id reason)
  | interrupts status =>
    exact keeps_call ((Scheduler.keeps_handleInterrupts intact status).map Reply.word)
  | service =>
    exact keeps_call ((Scheduler.keeps_serviceInterrupts intact).map Reply.word)
  | attach target =>
    refine keeps_call ⟨?_, rfl⟩
    exact intact.elsewhere _ _ _
  | detach target =>
    refine keeps_call ⟨?_, rfl⟩
    exact intact.elsewhere _ _ _
  | inject event =>
    refine keeps_call ((Scheduler.reads_get.keeps intact).bind fun state _ intact _ => ?_)
    refine (Scheduler.keeps_lift intact _).bind fun hardware after intact _ => ⟨?_, rfl⟩
    exact intact.elsewhere _ _ _

/-- The sessions that requests lead to from a new scheduler, whose clock can tell the times of its
waits on the hardware. A request is made where the scheduler is as usual, and it may end in any
way. -/
inductive Reached (config : Config) (machine : Machine) (usual : Scheduler → Prop) :
    Session → Prop where
  | begun {clock : Clock} {scheduler : Scheduler} (timely : config.Timely clock)
      (created : Scheduler.create config machine clock = .ok scheduler) :
      Reached config machine usual { scheduler }
  | performed {session : Session} (reached : Reached config machine usual session)
      (isUsual : usual session.scheduler) (request : Request) :
      Reached config machine usual (perform request session).2

section Runs

variable {config : Config} {machine : Machine} {usual : Scheduler → Prop}

/-- A clock that does not end can tell all times. -/
theorem Reached.created {scheduler : Scheduler}
    (created : Scheduler.create config machine = .ok scheduler) :
    Reached config machine usual { scheduler } :=
  .begun config.timely_endless created

/-- The session after some requests. -/
def performAll (session : Session) (requests : List Request) : Session :=
  requests.foldl (fun session request => (perform request session).2) session

/-- A run goes on as long as the scheduler is as usual before each request. -/
theorem Reached.performAll (reached : Reached config machine usual session)
    {requests : List Request}
    (isUsual : ∀ done ∈ requests.inits, usual (session.performAll done).scheduler) :
    Reached config machine usual (session.performAll requests) := by
  induction requests generalizing session with
  | nil => exact reached
  | cons request rest ih =>
    have first : usual session.scheduler := isUsual [] (by simp)
    refine ih (reached.performed first request) fun done mem => ?_
    exact isUsual (request :: done) (by simp [mem])

/-- The outcome of a request keeps the scheduler intact. -/
theorem intact_perform (intact : session.scheduler.Intact exact)
    (trusted : exact → session.scheduler.Trusted) (request : Request) :
    (perform request session).2.scheduler.Intact exact ∧
      (perform request session).2.scheduler.config = session.scheduler.config := by
  have keeps := keeps_perform intact trusted request
  unfold Keeps Yields at keeps
  rcases run : perform request session with ⟨_ | _, _⟩ <;> rw [run] at keeps <;> exact keeps

/-- Along every run the scheduler is intact, where the hardware is trusted before each request if
the records of groups are to be exact. -/
theorem Reached.intact (reached : Reached config machine usual session) (exact : Prop)
    (trusted : ∀ scheduler : Scheduler, scheduler.config = config → usual scheduler →
      exact → scheduler.Trusted) :
    session.scheduler.Intact exact ∧ session.scheduler.config = config := by
  induction reached with
  | begun timely created => exact Scheduler.intact_of_create timely created
  | performed reached isUsual request ih =>
    obtain ⟨intact, same⟩ := ih
    obtain ⟨kept, config⟩ := intact_perform intact (trusted _ same isUsual) request
    exact ⟨kept, config.trans same⟩

/-- Along every run the clock can tell the times of the waits on the hardware. -/
theorem Reached.timely (reached : Reached config machine usual session) :
    session.scheduler.Timely :=
  (reached.intact False fun _ _ _ => False.elim).1.sound.shaped.timely

end Runs

end Session

namespace Scheduler

/-- The records of who is active, grouped and in use agree. -/
structure Coherent (scheduler : Scheduler) : Prop where
  /-- The active set of a runlist holds its active channels and no others. -/
  active : ∀ runlist id : Nat, scheduler.activeOn runlist id = true ↔
    ∃ channel : Channel, scheduler.channels[id]? = some channel ∧ channel.state = .active ∧
      channel.runlist = runlist
  /-- A channel records a group just when the group is in use and lists the channel, once. -/
  grouped : ∀ id groupId : Nat,
    (∃ channel : Channel, scheduler.channels[id]? = some channel ∧ channel.group = some groupId) ↔
      ∃ group : Group, scheduler.groups[groupId]? = some group ∧ group.inUse = true ∧
        group.members.count id = 1
  /-- A channel and its group are on the same runlist. -/
  together : ∀ (id groupId : Nat) (channel : Channel) (group : Group),
    scheduler.channels[id]? = some channel → channel.group = some groupId →
      scheduler.groups[groupId]? = some group → group.runlist = channel.runlist
  /-- A group counts its members in the active set of its runlist. -/
  counter : ∀ (groupId : Nat) (group : Group), scheduler.groups[groupId]? = some group →
    group.active.toNat = group.members.countP (scheduler.activeOn group.runlist)
  /-- A group is among the active groups of its own runlist where its counter is positive, and of no
  other runlist. -/
  bit : ∀ runlist groupId : Nat, scheduler.groupActiveOn runlist groupId = true ↔
    ∃ group : Group, scheduler.groups[groupId]? = some group ∧ group.runlist = runlist ∧
      0 < group.active.toNat
  /-- The pool of channels holds the numbers of those that are not in use. -/
  freeChannel : ∀ id : Nat, scheduler.freeChannels.contains id = true ↔
    ∃ channel : Channel, scheduler.channels[id]? = some channel ∧ channel.state = .free
  /-- The pool of groups holds the numbers of those that are not in use. -/
  freeGroup : ∀ id : Nat, scheduler.freeGroups.contains id = true ↔
    ∃ group : Group, scheduler.groups[id]? = some group ∧ group.inUse = false

variable {scheduler : Scheduler}

/-- Exact records of an intact scheduler are coherent. -/
theorem Intact.coherent (intact : scheduler.Intact True) : scheduler.Coherent := by
  have consistent := intact.sound.consistent
  have counted := intact.sound.counted trivial
  refine ⟨fun runlist id => ?_, fun id groupId => ?_, fun id groupId channel group found grouped
    inTable => ?_, fun groupId group inTable => ?_, fun runlist groupId => ?_, fun id => ?_,
    fun id => ?_⟩
  · constructor
    · intro on
      obtain ⟨seat, holds, here, state⟩ := consistent.running on
      obtain ⟨channel, found, rfl⟩ := Option.map_eq_some_iff.mp holds
      refine ⟨channel, found, state.resolve_right fun faulted => ?_, here⟩
      have off := intact.stopped trivial runlist id channel.seat holds faulted
      exact absurd (off.symm.trans on) (by decide)
    · rintro ⟨channel, found, active, rfl⟩
      exact consistent.active (seat_of_found found) active
  · constructor
    · rintro ⟨channel, found, grouped⟩
      obtain ⟨roster, holds, inUse, isMember, _⟩ :=
        consistent.grouped (seat_of_found found) grouped
      obtain ⟨group, inTable, rfl⟩ := Option.map_eq_some_iff.mp holds
      have once := List.count_eq_one_of_mem (consistent.nodup holds) isMember
      exact ⟨group, inTable, inUse, once⟩
    · rintro ⟨group, inTable, _, once⟩
      have isMember : id ∈ group.members := List.count_pos_iff.mp (by omega)
      obtain ⟨seat, holds, grouped⟩ := consistent.member (roster_of_found inTable) isMember
      obtain ⟨channel, found, rfl⟩ := Option.map_eq_some_iff.mp holds
      exact ⟨channel, found, grouped⟩
  · obtain ⟨roster, holds, _, _, same⟩ := consistent.grouped (seat_of_found found) grouped
    rw [roster_of_found inTable, Option.some.injEq] at holds
    subst holds
    exact same
  · exact counted.counter (roster_of_found inTable)
  · refine counted.bit.trans ?_
    constructor
    · rintro ⟨roster, holds, here, positive⟩
      obtain ⟨group, inTable, rfl⟩ := Option.map_eq_some_iff.mp holds
      exact ⟨group, inTable, here, positive⟩
    · rintro ⟨group, inTable, here, positive⟩
      exact ⟨group.roster, roster_of_found inTable, here, positive⟩
  · refine consistent.freeChannel.trans ?_
    constructor
    · rintro ⟨seat, holds, free⟩
      obtain ⟨channel, found, rfl⟩ := Option.map_eq_some_iff.mp holds
      exact ⟨channel, found, free⟩
    · rintro ⟨channel, found, free⟩
      exact ⟨channel.seat, seat_of_found found, free⟩
  · refine consistent.freeGroup.trans ?_
    constructor
    · rintro ⟨roster, holds, unused⟩
      obtain ⟨group, inTable, rfl⟩ := Option.map_eq_some_iff.mp holds
      exact ⟨group, inTable, unused⟩
    · rintro ⟨group, inTable, unused⟩
      exact ⟨group.roster, roster_of_found inTable, unused⟩

end Scheduler

namespace Session

variable {config : Config} {machine : Machine} {session : Session}

/-- Where engines can be told apart by their faults, and status words are honest whenever a request
is made, the hardware is trusted. -/
theorem trusted_of_honest (distinct : (config.engines.map (·.faultId)).Nodup)
    {scheduler : Scheduler} (same : scheduler.config = config) (honest : scheduler.Honest) :
    scheduler.Trusted := by
  refine ⟨?_, honest⟩
  rw [same]
  exact distinct

/-- Along every run on hardware whose engines run only what is on their runlists, whatever is
requested and however it ends, the records of the scheduler are coherent. -/
theorem reached_coherent (distinct : (config.engines.map (·.faultId)).Nodup)
    (reached : Reached config machine Scheduler.Honest session) :
    session.scheduler.Coherent := by
  have intact := reached.intact True fun _ same honest _ =>
    trusted_of_honest distinct same honest
  exact intact.1.coherent

/-- One graphics engine, two channels and a group. -/
def oneEngine : Config :=
  { channelCount := 2
    groupCount := 1
    engines := [{ id := 0, kind := .graphics, runlist := 0 }]
    poll := { runlistTimeout := 20 } }

/-- A machine after power-up. -/
def poweredUp : Machine :=
  { bus := {}, memory := { plan := MemoryPool.linearPlan 0x100000 0x1000 none } }

/-- What can be computed of a new scheduler holds of one. -/
theorem exists_created {clock : Clock} {test : Scheduler → Bool}
    (outcome : (Scheduler.create config machine clock).toOption.map test = some true) :
    ∃ scheduler, Scheduler.create config machine clock = .ok scheduler ∧
      test scheduler = true := by
  obtain ⟨scheduler, found, holds⟩ := Option.map_eq_some_iff.mp outcome
  refine ⟨scheduler, ?_, holds⟩
  unfold Except.toOption at found
  split at found
  · cases found
    assumption
  · cases found

/-- The engine hangs while it runs a group: the update that it does not pick up leaves the member of
the group faulted, and the records agree. -/
theorem coherent_after_timeout : ∃ session, Reached oneEngine poweredUp Scheduler.Honest session ∧
    session.scheduler.channels[0]?.map (·.state) = some .faulted ∧
    session.scheduler.Coherent := by
  let requests : List Request :=
    [.bind 0 { runlist := 0 }, .createGroup 0, .join 0 0, .update 0 (some 0) true true,
      .inject (.engineStatus 0 (.running (.group 0))), .inject (.hangRunlist 0 .forever),
      .update 0 none true true]
  have outcome : (Scheduler.create oneEngine poweredUp).toOption.map (fun scheduler => decide
      ((∀ done ∈ requests.inits, (performAll { scheduler } done).scheduler.Honest) ∧
        (performAll { scheduler } requests).scheduler.channels[0]?.map (·.state) =
          some .faulted)) = some true := by decide +kernel
  obtain ⟨scheduler, created, holds⟩ := exists_created outcome
  obtain ⟨honest, faulted⟩ := decide_eq_true_iff.mp holds
  have reached := (Reached.created created).performAll honest
  exact ⟨_, reached, faulted, reached_coherent (by decide) reached⟩

end Session

end GpuSched
