import GpuSched.Proofs.Scheduler.Interrupts
import GpuSched.Scheduler.Activity

/-!
# Operations that keep a scheduler intact

A scheduler is intact when its memberships are sound and no faulted channel is active. `Keeps` says
that an operation leaves an intact scheduler intact however it ends: with an answer, with a refusal
or with an abort. What only reads, what only drives the hardware and what recovers contexts does so
on any hardware, and so do preemption and the operations of engines, which are composed of these.
-/
namespace GpuSched.Scheduler

open Operation

variable {exact : Prop} {scheduler before middle after : Scheduler} {id runlistId : Nat}
  {channel : Channel} {runlist : Runlist} {touched marked : Set Nat} {α β : Type}

/-- Memberships are sound. Where the hardware is trusted, no faulted channel is active. -/
structure Intact (exact : Prop) (scheduler : Scheduler) : Prop where
  sound : scheduler.Sound exact
  stopped : exact → scheduler.enrollment.Stopped

namespace Intact

/-- What changes neither the shapes nor the memberships keeps a scheduler intact. -/
theorem same (intact : before.Intact exact) (shaped : after.Shaped)
    (enrollment : after.enrollment = before.enrollment) : after.Intact exact := by
  refine ⟨intact.sound.same shaped enrollment, fun holds => ?_⟩
  rw [enrollment]
  exact intact.stopped holds

/-- Only the tables of a scheduler have to be intact. -/
theorem elsewhere (intact : scheduler.Intact exact) (machine : Machine)
    (deferred : List DeferredReset) (attached : List Target) :
    ({ scheduler with machine, deferred, attached } : Scheduler).Intact exact :=
  intact.same (intact.sound.shaped.same rfl rfl rfl rfl rfl) rfl

/-- Stopping channels and taking them out keeps a scheduler intact. -/
theorem stops (intact : before.Intact exact) (sound : after.Sound exact)
    (stops : Stops touched marked marked before after) : after.Intact exact :=
  ⟨sound, fun holds => stops.stopped Set.inter_subset_left (intact.stopped holds)⟩

/-- Posting events keeps a scheduler intact. -/
theorem notified (intact : before.Intact exact) (notified : Notified before after) :
    after.Intact exact :=
  intact.same (notified.sound intact.sound).shaped notified.enrollment_eq

/-- An update on trusted hardware keeps a scheduler intact. -/
theorem updated {id : Option Nat} {add wait : Bool} (intact : before.Intact exact)
    (trusted : exact → before.Trusted)
    (updated : Updated exact runlistId id add wait before after) :
    after.Intact exact :=
  ⟨updated.sound, fun holds =>
    updated.stopped intact.sound (trusted holds) (intact.stopped holds)⟩

end Intact

/-- However an operation ends, the scheduler is intact, with the same configuration. -/
def Keeps (exact : Prop) (operation : Operation Scheduler α) (scheduler : Scheduler) : Prop :=
  operation.Yields scheduler
    (fun _ after => after.Intact exact ∧ after.config = scheduler.config)
    fun _ after => after.Intact exact ∧ after.config = scheduler.config

/-- What leaves the scheduler as it is. -/
def Reads (operation : Operation Scheduler α) : Prop :=
  ∀ scheduler : Scheduler, operation.Yields scheduler (fun _ after => after = scheduler)
    fun _ after => after = scheduler

/-- An answer leaves the scheduler as it is. -/
theorem keeps_pure (intact : scheduler.Intact exact) (value : α) :
    Keeps exact (pure value) scheduler := ⟨intact, rfl⟩

/-- A result beside the state leaves the scheduler as it is. -/
theorem keeps_lift (intact : scheduler.Intact exact) (result : Except Failure α) :
    Keeps exact (liftM result : Operation Scheduler α) scheduler := by
  unfold Keeps
  rw [yields_lift]
  cases result <;> exact ⟨intact, rfl⟩

/-- One operation after another. -/
theorem Keeps.bind {operation : Operation Scheduler α} {next : α → Operation Scheduler β}
    (first : Keeps exact operation scheduler)
    (second : ∀ value after, after.Intact exact → after.config = scheduler.config →
      Keeps exact (next value) after) : Keeps exact (operation >>= next) scheduler := by
  unfold Keeps
  rw [yields_bind]
  refine first.mono ?_ fun _ _ => id
  rintro value middle ⟨intact, config⟩
  refine (second value middle intact config).mono ?_ ?_
  · exact fun _ _ kept => ⟨kept.1, kept.2.trans config⟩
  · exact fun _ _ kept => ⟨kept.1, kept.2.trans config⟩

/-- A changed answer. -/
theorem Keeps.map {operation : Operation Scheduler α} (change : α → β)
    (keeps : Keeps exact operation scheduler) : Keeps exact (change <$> operation) scheduler := by
  unfold Keeps
  rw [yields_map]
  exact keeps

/-- An answer of its own. -/
theorem Keeps.answering {operation : Operation Scheduler α} (value : β)
    (keeps : Keeps exact operation scheduler) :
    Keeps exact (operation *> pure value) scheduler := by
  unfold Keeps
  rw [yields_seqRight]
  exact keeps

/-- Reading leaves the scheduler as it is. -/
theorem Reads.keeps {operation : Operation Scheduler α} (reads : Reads operation)
    (intact : scheduler.Intact exact) : Keeps exact operation scheduler := by
  refine (reads scheduler).mono ?_ ?_
  · rintro _ _ rfl
    exact ⟨intact, rfl⟩
  · rintro _ _ rfl
    exact ⟨intact, rfl⟩

/-- Reading once more. -/
theorem Reads.bind {operation : Operation Scheduler α} {next : α → Operation Scheduler β}
    (first : Reads operation) (second : ∀ value, Reads (next value)) :
    Reads (operation >>= next) := by
  intro scheduler
  rw [yields_bind]
  refine (first scheduler).mono ?_ fun _ _ => id
  rintro value _ rfl
  exact second value _

/-- The state itself is read. -/
theorem reads_get : Reads (get : Operation Scheduler Scheduler) := fun _ => rfl

/-- An answer is read off nothing. -/
theorem reads_pure (value : α) : Reads (pure value) := fun _ => rfl

/-- A result beside the state changes nothing. -/
theorem reads_lift (result : Except Failure α) :
    Reads (liftM result : Operation Scheduler α) := by
  intro scheduler
  rw [yields_lift]
  cases result <;> rfl

/-- Looking up a channel changes nothing. -/
theorem reads_channel (id : Nat) : Reads (Scheduler.channel id) := by
  intro scheduler
  rw [yields_channel]
  split <;> rfl

/-- Looking up a group changes nothing. -/
theorem reads_group (id : Nat) : Reads (Scheduler.group id) := by
  intro scheduler
  rw [yields_group]
  split
  · split <;> rfl
  · rfl

/-- Looking up a runlist changes nothing. -/
theorem reads_runlist (id : Nat) : Reads (Scheduler.runlist id) := by
  intro scheduler
  rw [yields_runlist]
  split <;> rfl

/-- Looking up an entry changes nothing. -/
theorem reads_entry (table : Array α) (index : Nat) :
    Reads (entry table index : Operation Scheduler α) := by
  intro scheduler
  unfold entry
  split <;> rfl

/-- Looking up a slot changes nothing. -/
theorem reads_channelAt (id : Nat) : Reads (channelAt id) :=
  reads_get.bind fun scheduler => reads_entry scheduler.channels id

/-- The list that the hardware reads can be read. -/
theorem reads_snapshot (id : Nat) : Reads (snapshot id) :=
  (reads_runlist id).bind fun _ => reads_lift _

/-- Memberships are sound, and nothing else has happened to them than that channels were marked
faulted and taken out of the active sets. -/
structure Ceased (exact : Prop) (before after : Scheduler) : Prop where
  sound : after.Sound exact
  stops : ∃ marked, Stops Set.univ marked marked before after

namespace Ceased

/-- Nothing was stopped. -/
theorem refl (sound : scheduler.Sound exact) : Ceased exact scheduler scheduler :=
  ⟨sound, ∅, .refl _ scheduler⟩

/-- Channels were stopped, and then others. -/
theorem trans (one : Ceased exact before middle) (two : Ceased exact middle after) :
    Ceased exact before after := by
  obtain ⟨_, first⟩ := one.stops
  obtain ⟨_, second⟩ := two.stops
  exact ⟨two.sound, _, first.trans second⟩

/-- The configuration is the same. -/
theorem config (ceased : Ceased exact before after) : after.config = before.config := by
  obtain ⟨_, stops⟩ := ceased.stops
  exact stops.toSteady.config

end Ceased

/-- An operation answers or refuses, and stops channels at most. -/
def Ceases (exact : Prop) (operation : Operation Scheduler α) (scheduler : Scheduler) : Prop :=
  operation.Yields scheduler (fun _ after => Ceased exact scheduler after)
    fun failure after => (∃ error, failure = .refused error) ∧ Ceased exact scheduler after

/-- An answer stops nothing. -/
theorem ceases_pure (sound : scheduler.Sound exact) (value : α) :
    Ceases exact (pure value) scheduler := .refl sound

/-- A look at the scheduler stops nothing. -/
theorem ceases_get_bind {next : Scheduler → Operation Scheduler α}
    (ceases : Ceases exact (next scheduler) scheduler) :
    Ceases exact (get >>= next) scheduler := by
  unfold Ceases
  rw [yields_bind, yields_get]
  exact ceases

/-- A refusal stops nothing. -/
theorem ceases_refuse (sound : scheduler.Sound exact) (error : Error) :
    Ceases exact (refuse error : Operation Scheduler α) scheduler := ⟨⟨error, rfl⟩, .refl sound⟩

/-- What never fails and stops channels at most. -/
theorem ceases_of_stops {operation : Operation Scheduler α}
    (runs : operation.Yields scheduler
      (fun _ after => after.Sound exact ∧ Stops touched marked marked scheduler after)
      fun _ _ => False) : Ceases exact operation scheduler :=
  runs.mono (fun _ _ ⟨sound, stops⟩ => ⟨sound, marked, stops.mono (Set.subset_univ _)⟩)
    fun _ _ => False.elim

/-- Driving the hardware stops nothing. -/
theorem ceases_onBus {operation : Operation Bus α} {answer : α → Prop}
    (sound : scheduler.Sound exact)
    (serves : Bus.Serves operation scheduler.machine.bus touched answer) :
    Ceases exact (onBus operation) scheduler :=
  ceases_of_stops ((yields_drive sound (Set.subset_univ _) serves).imp fun _ _ => And.right)

/-- One operation after another. -/
theorem Ceases.bind {operation : Operation Scheduler α} {next : α → Operation Scheduler β}
    (first : Ceases exact operation scheduler)
    (second : ∀ value after, after.Sound exact → after.config = scheduler.config →
      Ceases exact (next value) after) : Ceases exact (operation >>= next) scheduler := by
  unfold Ceases
  rw [yields_bind]
  refine first.mono (fun value middle one => ?_) fun _ _ => id
  exact (second value middle one.sound one.config).mono (fun _ _ two => one.trans two)
    fun _ _ ⟨refused, two⟩ => ⟨refused, one.trans two⟩

/-- An operation whose refusal is answered. -/
theorem Ceases.attempt {operation : Operation Scheduler α}
    (ceases : Ceases exact operation scheduler) : Ceases exact operation.attempt scheduler := by
  unfold Ceases
  rw [yields_attempt]
  refine Yields.mono ceases (fun _ _ => id) ?_
  rintro _ after ⟨⟨error, rfl⟩, ceased⟩
  exact ceased

/-- An operation whose refusal is disregarded. -/
theorem Ceases.disregard {operation : Operation Scheduler α}
    (ceases : Ceases exact operation scheduler) : Ceases exact operation.disregard scheduler :=
  ceases.attempt.bind fun _ _ sound _ => ceases_pure sound ()

/-- A loop over a list. -/
theorem ceases_forM {list : List α} {act : α → Operation Scheduler Unit}
    (sound : scheduler.Sound exact)
    (each : ∀ item ∈ list, ∀ state : Scheduler, state.Sound exact →
      state.config = scheduler.config → Ceases exact (act item) state) :
    Ceases exact (list.forM act) scheduler := by
  refine yields_forM_of_kept (.refl sound) fun item mem state one => ?_
  exact (each item mem state one.sound one.config).mono (fun _ _ two => one.trans two)
    fun _ _ ⟨refused, two⟩ => ⟨refused, one.trans two⟩

/-- What stops channels at most keeps a scheduler intact. -/
theorem Ceases.keeps {operation : Operation Scheduler α}
    (ceases : Ceases exact operation scheduler) (intact : scheduler.Intact exact) :
    Keeps exact operation scheduler := by
  have kept : ∀ after, Ceased exact scheduler after →
      after.Intact exact ∧ after.config = scheduler.config := by
    rintro after ⟨sound, _, stops⟩
    exact ⟨intact.stops sound stops, stops.toSteady.config⟩
  exact Yields.mono ceases (fun _ after => kept after) fun _ after ceased => kept after ceased.2

/-- A channel that is named is looked up. -/
theorem ceases_channel (sound : scheduler.Sound exact) (id : Nat) :
    Ceases exact (Scheduler.channel id) scheduler := by
  unfold Ceases
  rw [yields_channel]
  split
  · exact .refl sound
  · exact ceases_refuse (α := Channel) sound _

/-- A group that is named is looked up. -/
theorem ceases_group (sound : scheduler.Sound exact) (id : Nat) :
    Ceases exact (Scheduler.group id) scheduler := by
  unfold Ceases
  rw [yields_group]
  split
  · split
    · exact .refl sound
    · exact ceases_refuse (α := Group) sound _
  · exact ceases_refuse (α := Group) sound _

/-- An engine that is named is one of the configuration. -/
theorem yields_engine (scheduler : Scheduler) (id : Nat) :
    (Scheduler.engine id).Yields scheduler
      (fun engine after => engine ∈ scheduler.config.engines ∧ after = scheduler)
      fun failure after => failure = .refused (.invalidEngine id) ∧ after = scheduler := by
  unfold Scheduler.engine
  rw [yields_bind, yields_get]
  cases found : scheduler.config.engines.find? (·.id = id) with
  | none => exact ⟨rfl, rfl⟩
  | some engine => exact ⟨List.mem_of_find?_eq_some found, rfl⟩

/-- What is done with an engine that is named is done with one of the configuration. -/
theorem ceases_withEngine {act : Engine → Operation Scheduler α} (sound : scheduler.Sound exact)
    (id : Nat) (each : ∀ engine ∈ scheduler.config.engines, Ceases exact (act engine) scheduler) :
    Ceases exact (Scheduler.engine id >>= act) scheduler := by
  unfold Ceases
  rw [yields_bind]
  refine (yields_engine scheduler id).mono ?_ ?_
  · rintro engine _ ⟨mem, rfl⟩
    exact each engine mem
  · rintro _ _ ⟨rfl, rfl⟩
    exact ⟨⟨_, rfl⟩, .refl sound⟩

/-- Whatever the hardware does keeps a scheduler intact. -/
theorem keeps_onBus (intact : scheduler.Intact exact) (operation : Operation Bus α) :
    Keeps exact (onBus operation) scheduler := by
  unfold Keeps onBus
  rw [yields_focus]
  exact yields_of_forall (fun _ _ => ⟨intact.elsewhere _ _ _, rfl⟩)
    fun _ _ => ⟨intact.elsewhere _ _ _, rfl⟩

/-- Waiting for the hardware stops nothing. -/
theorem ceases_waitFor (sound : scheduler.Sound exact) {timeout : Nat}
    (asked : timeout ∈ scheduler.config.poll.timeouts) {ask : Operation Bus Bool}
    (each : ∀ bus, Bus.Serves ask bus ∅ fun _ => True) :
    Ceases exact (waitFor timeout ask) scheduler :=
  ceases_of_stops (yields_waitFor sound asked ∅ each)

/-- Status words of engines are read. -/
theorem ceases_engineStatus (sound : scheduler.Sound exact) {engine : Engine}
    (mem : engine ∈ scheduler.config.engines) : Ceases exact (engineStatus engine.id) scheduler :=
  ceases_of_stops ((yields_engineStatus sound (sound.shaped.engineFits mem).id ∅).imp
    fun _ _ => And.right)

/-- Status words of PBDMA units are read. -/
theorem ceases_pbdmaStatus (sound : scheduler.Sound exact) {engine : Engine}
    (mem : engine ∈ scheduler.config.engines) :
    Ceases exact (pbdmaStatus engine.pbdma) scheduler := by
  have unit := (sound.shaped.engineFits mem).pbdma
  exact ceases_of_stops ((yields_pbdmaStatus sound (unit.trans (by decide)) ∅).imp
    fun _ _ => And.right)

/-- Disable bits of runlists are set and cleared. -/
theorem ceases_setEngineDisabled (sound : scheduler.Sound exact) {engine : Engine}
    (mem : engine ∈ scheduler.config.engines) (disabled : Bool) :
    Ceases exact (setEngineDisabled engine disabled) scheduler := by
  have inWord : ∀ list ∈ [engine.runlist], list < 32 := fun list isOwn => by
    rw [List.mem_singleton.mp isOwn]
    exact (sound.shaped.engineFits mem).runlist.trans (by decide)
  obtain ⟨mask, isMask, -⟩ := maskOf_eq inWord
  unfold Ceases setEngineDisabled
  rw [isMask, yields_bind, yields_lift_ok]
  exact ceases_of_stops (yields_setSchedulerDisabled sound mask disabled)

/-- Recovery of a target stops its context. -/
theorem ceases_recoverTarget (sound : scheduler.Sound exact) (target : Target)
    (reason : FaultReason) : Ceases exact (recoverTarget target reason) scheduler :=
  ceases_of_stops (yields_recoverTarget sound target reason)

/-- Recovery of a channel that is named stops its context. -/
theorem ceases_recoverChannel (sound : scheduler.Sound exact) (id : Nat) (reason : FaultReason) :
    Ceases exact (recoverChannel id reason) scheduler := by
  refine (ceases_channel sound id).bind fun channel _ sound _ => ?_
  split
  · exact ceases_refuse sound _
  · exact ceases_recoverTarget sound _ reason

/-- Recovery of a group that is named stops its channels. -/
theorem ceases_recoverGroup (sound : scheduler.Sound exact) (id : Nat) (reason : FaultReason) :
    Ceases exact (recoverGroup id reason) scheduler :=
  (ceases_group sound id).bind fun _ _ sound _ => ceases_recoverTarget sound _ reason

/-- Servicing an interrupt keeps a scheduler intact. -/
theorem keeps_handleInterrupts (intact : scheduler.Intact exact) (status : UInt32) :
    Keeps exact (handleInterrupts status) scheduler := by
  have kept : ∀ after, (∃ stopped, Sound exact stopped ∧
      Stops Set.univ (scheduler.interruptContexts status) (scheduler.interruptContexts status)
        scheduler stopped ∧ Notified stopped after) →
      after.Intact exact ∧ after.config = scheduler.config := by
    rintro after ⟨stopped, sound, stops, notified⟩
    exact ⟨(intact.stops sound stops).notified notified,
      notified.config.trans stops.toSteady.config⟩
  exact (yields_handleInterrupts intact.sound status).mono (fun _ after => kept after)
    fun _ after ⟨_, stopped⟩ => kept after stopped

/-- Servicing the pending interrupts keeps a scheduler intact. -/
theorem keeps_serviceInterrupts (intact : scheduler.Intact exact) :
    Keeps exact serviceInterrupts scheduler := by
  refine (keeps_onBus intact _).bind fun status _ intact _ => ?_
  split
  · exact keeps_pure intact 0
  · exact keeps_handleInterrupts intact status

/-- Whether a preempt is pending can be asked. -/
theorem serves_preempted (bus : Bus) :
    Bus.Serves (not <$> Device.preemptPending) bus ∅ fun _ => True :=
  Bus.serves_not ((Bus.serves_read _).bind fun _ _ _ _ => Bus.serves_pure trivial)

/-- Preempting a target stops its context if it does not end in time. -/
theorem ceases_preemptTarget (sound : scheduler.Sound exact) (target : Target) :
    Ceases exact (preemptTarget target) scheduler := by
  refine (ceases_onBus sound (Bus.serves_write _ _)).bind fun _ issued sound _ => ?_
  refine ceases_get_bind ?_
  have asked := issued.config.poll.mem_timeouts.2.1
  refine (ceases_waitFor sound asked serves_preempted).bind fun done _ sound _ => ?_
  cases done with
  | true => exact ceases_pure sound ()
  | false =>
    exact (ceases_recoverTarget sound target _).bind fun _ _ sound _ => ceases_refuse sound _

/-- A channel is preempted. -/
theorem ceases_preemptChannel (sound : scheduler.Sound exact) (id : Nat) :
    Ceases exact (preemptChannel id) scheduler := by
  refine (ceases_channel sound id).bind fun channel _ sound _ => ?_
  split
  · exact ceases_refuse sound _
  · exact ceases_preemptTarget sound _

/-- A group is preempted. -/
theorem ceases_preemptGroup (sound : scheduler.Sound exact) (id : Nat) :
    Ceases exact (preemptGroup id) scheduler :=
  (ceases_group sound id).bind fun _ _ sound _ => ceases_preemptTarget sound _

/-- Whether an engine is idle can be asked. -/
theorem serves_engineIdle {engine : Nat} (inRange : engine < 32) (bus : Bus) :
    Bus.Serves (engineIdle engine) bus ∅ fun _ => True :=
  (Device.serves_engineStatus inRange).bind fun _ _ _ _ => Bus.serves_pure trivial

/-- Waiting for an engine to be idle stops what it runs if that takes too long. -/
theorem ceases_waitEngineIdle (sound : scheduler.Sound exact) (id : Nat) :
    Ceases exact (waitEngineIdle id) scheduler := by
  refine ceases_withEngine sound id fun engine mem => ?_
  have asks := serves_engineIdle (sound.shaped.engineFits mem).id
  refine ceases_get_bind ?_
  have asked := scheduler.config.poll.mem_timeouts.2.2
  refine (ceases_waitFor sound asked asks).bind fun idle after sound config => ?_
  cases idle with
  | true => exact ceases_pure sound ()
  | false =>
    have still : engine ∈ after.config.engines := by
      rw [config]
      exact mem
    exact (ceases_of_stops (yields_recoverEngine sound still _)).bind
      fun _ _ sound _ => ceases_refuse sound _

/-- What is left of stopping an engine once the context on its PBDMA is stopped. -/
def quiesceRunning (engine : Engine) (waitIdle : Bool) (fetching : Option Target) :
    Operation Scheduler Unit := do
  let running := (← engineStatus engine.id).resident
  if let some target := running then
    if some target ≠ fetching then
      preemptTarget target
  if waitIdle then
    waitEngineIdle engine.id

/-- What an engine runs is preempted. -/
theorem ceases_quiesceRunning (sound : scheduler.Sound exact) {engine : Engine}
    (mem : engine ∈ scheduler.config.engines) (waitIdle : Bool) (fetching : Option Target) :
    Ceases exact (quiesceRunning engine waitIdle fetching) scheduler := by
  have waits : ∀ {state : Scheduler}, state.Sound exact →
      Ceases exact (if waitIdle then waitEngineIdle engine.id else pure ()) state := by
    intro state sound
    split
    · exact ceases_waitEngineIdle sound _
    · exact ceases_pure sound ()
  refine (ceases_engineStatus sound mem).bind fun status _ sound _ => ?_
  cases status.resident with
  | none => exact waits sound
  | some target =>
    dsimp only
    split
    · exact (ceases_preemptTarget sound target).bind fun _ _ sound _ => waits sound
    · exact waits sound

/-- What an engine and its PBDMA run is preempted. -/
theorem ceases_quiesce (sound : scheduler.Sound exact) {engine : Engine}
    (mem : engine ∈ scheduler.config.engines) (waitIdle : Bool) :
    Ceases exact (quiesce engine waitIdle) scheduler := by
  refine (ceases_pbdmaStatus sound mem).bind fun status read sound config => ?_
  have still : engine ∈ read.config.engines := config ▸ mem
  cases resident : status.resident with
  | none => exact ceases_quiesceRunning sound still waitIdle none
  | some target =>
    refine (ceases_preemptTarget sound target).bind fun _ _ sound config => ?_
    exact ceases_quiesceRunning sound (config ▸ still) waitIdle (some target)

/-- An engine is disabled. -/
theorem ceases_disableEngine (sound : scheduler.Sound exact) (id : Nat) (waitIdle : Bool) :
    Ceases exact (disableEngine id waitIdle) scheduler := by
  refine ceases_withEngine sound id fun engine mem => ?_
  refine (ceases_engineStatus sound mem).bind fun status read sound config => ?_
  replace mem : engine ∈ read.config.engines := config ▸ mem
  split
  · exact ceases_refuse sound _
  · refine (ceases_setEngineDisabled sound mem true).bind fun _ disabled sound config => ?_
    replace mem : engine ∈ disabled.config.engines := config ▸ mem
    refine (ceases_quiesce sound mem waitIdle).attempt.bind fun outcome stopped sound config => ?_
    replace mem : engine ∈ stopped.config.engines := config ▸ mem
    cases outcome with
    | ok done => exact ceases_pure sound ()
    | error error =>
      exact (ceases_setEngineDisabled sound mem false).bind fun _ _ sound _ =>
        ceases_refuse sound _

/-- An engine is enabled. -/
theorem ceases_enableEngine (sound : scheduler.Sound exact) (id : Nat) :
    Ceases exact (enableEngine id) scheduler :=
  ceases_withEngine sound id fun _ mem => ceases_setEngineDisabled sound mem false

/-- Engines are disabled, and enabled again if one of them fails. -/
theorem ceases_disableEngines (sound : scheduler.Sound exact) (waitIdle : Bool)
    (ids disabled : List Nat) : Ceases exact (disableEngines waitIdle ids disabled) scheduler := by
  induction ids generalizing scheduler disabled with
  | nil => exact ceases_pure sound ()
  | cons id rest ih =>
    unfold disableEngines
    refine (ceases_disableEngine sound id waitIdle).attempt.bind fun outcome _ sound _ => ?_
    cases outcome with
    | ok done => exact ih sound _
    | error error =>
      have enables : Ceases exact
          (disabled.reverse.forM fun id => (enableEngine id).disregard) _ :=
        ceases_forM sound fun other _ _ sound _ => (ceases_enableEngine sound other).disregard
      exact enables.bind fun _ _ sound _ => ceases_refuse sound _

/-- Every engine is disabled. -/
theorem ceases_disableAllEngines (sound : scheduler.Sound exact) (waitIdle : Bool) :
    Ceases exact (disableAllEngines waitIdle) scheduler :=
  ceases_get_bind (ceases_disableEngines sound waitIdle _ [])

/-- Every engine is enabled. -/
theorem ceases_enableAllEngines (sound : scheduler.Sound exact) :
    Ceases exact enableAllEngines scheduler :=
  ceases_get_bind (ceases_forM sound fun engine _ _ sound _ => ceases_enableEngine sound engine.id)

end GpuSched.Scheduler
