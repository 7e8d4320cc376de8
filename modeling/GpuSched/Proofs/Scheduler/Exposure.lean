import GpuSched.Proofs.Scheduler.Traces
import Mathlib.Data.List.Infix

/-!
# Faulted channels in lists

Recovery marks the channels of a context faulted before it takes them off their runlists, one after
the other, and each removal hands the rest of the list over: a list may name a channel that has been
marked and is still to be removed. No other list names a faulted channel, as long as the engines of
a runlist run only what is on it: updates, releases and acknowledgements hand over none, and for one
that recovery hands over a later list of the same request leaves the channel out.
-/
namespace GpuSched

open Operation

namespace Scheduler

variable {scheduler : Scheduler} {list : Nat} {id : Option Nat} {add : Bool} {handed : HandedList}

/-- The channel of a slot is marked faulted. -/
def FaultedAt (scheduler : Scheduler) (id : Nat) : Prop :=
  scheduler.channels[id]?.map (·.state) = some .faulted

instance (scheduler : Scheduler) (id : Nat) : Decidable (scheduler.FaultedAt id) :=
  inferInstanceAs (Decidable (_ = _))

/-- What is in an active set of a scheduler in which no faulted channel is active. -/
theorem not_faultedAt_of_active (stopped : scheduler.enrollment.Stopped) {channel : Nat}
    (on : scheduler.activeOn list channel = true) : ¬scheduler.FaultedAt channel := by
  intro faulted
  obtain ⟨held, found, state⟩ := Option.map_eq_some_iff.mp faulted
  rw [stopped_iff.mp stopped found state] at on
  cases on

end Scheduler

namespace HandedList

/-- A list has been handed over that names no faulted channel. -/
structure Safe (handed : HandedList) : Prop where
  submitted : handed.Submitted
  spared : ∀ id, handed.Lists id → ¬handed.scheduler.FaultedAt id

/-- An update that begins where no faulted channel is active hands over none. -/
theorem safe_of_mem {scheduler : Scheduler} {list : Nat} {id : Option Nat} {add : Bool}
    {handed : HandedList} (intact : scheduler.Intact True)
    (mem : handed ∈ scheduler.handedLists list id add) : handed.Safe := by
  obtain ⟨rfl, middle, first, hands⟩ := Scheduler.of_mem_handedLists intact.sound mem
  have stopped : middle.enrollment.Stopped := by
    rcases first with rfl | ⟨_, _, toggled⟩
    · exact intact.stopped trivial
    · exact toggled.stopped (intact.stopped trivial)
  refine ⟨hands.submitted, fun id lists => ?_⟩
  have spared := Scheduler.not_faultedAt_of_active stopped (hands.lists id lists)
  unfold Scheduler.FaultedAt at spared ⊢
  rwa [hands.channels]

end HandedList

namespace Script

variable {allowed : (α : Type) → Act α → Prop} {α β : Type} {scheduler : Scheduler}
  {property : HandedList → Prop}

/-- What holds of the lists of two scripts holds of the lists of both in a row. -/
theorem forall_bind {first : Script allowed α} {next : α → Script allowed β}
    (earlier : ∀ handed ∈ first.handedLists scheduler, property handed)
    (later : ∀ value, ∀ handed ∈ (next value).handedLists (first.run scheduler).2,
      property handed) : ∀ handed ∈ (first >>= next).handedLists scheduler, property handed := by
  intro handed mem
  change handed ∈ (first.bind next).handedLists scheduler at mem
  rcases handedLists_bind first next scheduler with ⟨lists, -⟩ | ⟨value, lists, -⟩
  · rw [lists] at mem
    exact earlier handed mem
  · rw [lists] at mem
    exact (List.mem_append.mp mem).elim (earlier handed) (later value handed)

/-- An idle step hands over no list. -/
theorem forall_idle {operation : Operation Scheduler α}
    {idles : Respects Scheduler.Idles operation} :
    ∀ handed ∈ (idle operation idles : Script allowed α).handedLists scheduler, property handed :=
  fun _ mem => absurd mem List.not_mem_nil

/-- Nor does an act that is no update. -/
theorem forall_act {step : Act α} {isAllowed : allowed α step}
    (silent : ∀ scheduler, step.handedLists scheduler = []) :
    ∀ handed ∈ (act step isAllowed : Script allowed α).handedLists scheduler, property handed :=
  fun _ mem => absurd mem (by rw [handedLists, silent]; exact List.not_mem_nil)

/-- What is done after the state has been read. -/
theorem forall_read {operation : Operation Scheduler α} {reads : Scheduler.Reads operation}
    {next : α → Script allowed β}
    (later : ∀ value, ∀ handed ∈ (next value).handedLists scheduler, property handed) :
    ∀ handed ∈ (read operation reads >>= next).handedLists scheduler, property handed := by
  refine forall_bind forall_idle fun value => ?_
  have same : ((read operation reads : Script allowed α).run scheduler).2 = scheduler :=
    ((reads.respects : Respects (· = ·) operation) scheduler).symm
  rw [same]
  exact later value

/-- A script whose own answer is of no interest. -/
theorem forall_answering {script : Script allowed α} {reply : β}
    (each : ∀ handed ∈ script.handedLists scheduler, property handed) :
    ∀ handed ∈ (script.answering reply).handedLists scheduler, property handed :=
  forall_bind each fun _ => forall_idle

/-- A script whose answer is told. -/
theorem forall_mapping {script : Script allowed α} {tell : α → β}
    (each : ∀ handed ∈ script.handedLists scheduler, property handed) :
    ∀ handed ∈ (script.mapping tell).handedLists scheduler, property handed :=
  forall_bind each fun _ => forall_idle

/-- A loop over a list. -/
theorem forall_forM {γ : Type} {body : γ → Script allowed PUnit} (list : List γ)
    (each : ∀ item scheduler, ∀ handed ∈ (body item).handedLists scheduler, property handed) :
    ∀ handed ∈ (list.forM body).handedLists scheduler, property handed := by
  induction list generalizing scheduler with
  | nil => exact forall_idle
  | cons item rest ih => exact forall_bind (each item scheduler) fun _ => ih

variable (alters : ∀ (α : Type) (operation : Operation Scheduler α)
    (each : Respects Scheduler.Alters operation), allowed α (.alter operation each))
  (withdraws : ∀ runlist id, allowed Unit (.withdraw runlist id))
  (resets : ∀ id group, allowed Unit (.resets id group))
  {exact : Prop} {config : Config}
  (each : ∀ {scheduler : Scheduler}, scheduler.Intact exact → scheduler.config = config →
    ∀ {list : Nat} {id : Option Nat} {add : Bool}, ∀ handed ∈ scheduler.handedLists list id add,
      property handed)

include each

/-- A fault is acknowledged. -/
theorem forall_acknowledgeFault (intact : scheduler.Intact exact)
    (same : scheduler.config = config) (id : Nat) :
    ∀ handed ∈ (acknowledgeFault alters id).handedLists scheduler, property handed := by
  refine forall_read fun channel => ?_
  have removes : ∀ handed ∈ (do
      remove channel.runlist id
      alter alters _ (Scheduler.alters_changeChannel id (fun _ impossible => by cases impossible) :
        Respects _ (Scheduler.changeChannel id ({ · with state := .bound, fault := none }))) :
      Script allowed Unit).handedLists scheduler, property handed :=
    forall_bind (each intact same) fun _ => forall_act fun _ => rfl
  split
  · exact forall_bind forall_idle fun _ => removes
  · exact removes

/-- A channel leaves its group. -/
theorem forall_leaveGroup (intact : scheduler.Intact exact) (same : scheduler.config = config)
    (id : Nat) :
    ∀ handed ∈ (leaveGroup alters withdraws id).handedLists scheduler, property handed := by
  refine forall_read fun channel => ?_
  split
  · exact forall_idle
  · split
    · exact forall_bind (each intact same) fun _ => forall_act fun _ => rfl
    · exact forall_act fun _ => rfl

/-- A channel is released. -/
theorem forall_releaseChannel (intact : scheduler.Intact exact)
    (same : scheduler.config = config) (id : Nat) :
    ∀ handed ∈ (releaseChannel alters withdraws resets id).handedLists scheduler,
      property handed := by
  refine forall_read fun channel => ?_
  refine forall_bind (forall_bind (each intact same) fun _ => forall_idle) fun _ => ?_
  exact forall_bind (forall_act fun _ => rfl) fun _ => forall_act fun _ => rfl

/-- A reference is given back. -/
theorem forall_drop (intact : scheduler.Intact exact) (same : scheduler.config = config)
    (id : Nat) :
    ∀ handed ∈ (drop alters withdraws resets id).handedLists scheduler, property handed := by
  refine forall_read fun channel => forall_bind forall_idle fun _ => ?_
  have counted : (Scheduler.changeChannel id
      (fun held => { held with references := channel.references - 1 }) scheduler).2.Intact exact :=
    intact.changeChannel fun _ => rfl
  dsimp only
  split
  · split
    · exact forall_bind forall_idle fun _ =>
        forall_releaseChannel alters withdraws resets each counted same id
    · exact forall_bind forall_idle fun _ => forall_idle
  · split
    · exact forall_releaseChannel alters withdraws resets each counted same id
    · exact forall_idle

end Script

/-- Disabling and enabling an engine hands nothing over. -/
theorem Act.pauses_switch (engine : Engine) (disabled : Bool) :
    (switch engine disabled).Pauses := by
  refine ⟨fun _ => rfl, fun exact scheduler sound => ⟨Yields.holds ?_,
    (Scheduler.drives_setEngineDisabled engine disabled scheduler).toStays.pauses⟩⟩
  change (Scheduler.setEngineDisabled engine disabled).Yields scheduler _ _
  unfold Scheduler.setEngineDisabled
  rw [yields_bind, yields_lift]
  cases Scheduler.maskOf [engine.runlist] with
  | error failure => exact sound
  | ok lists =>
    exact (Scheduler.yields_setSchedulerDisabled sound lists disabled).mono (fun _ _ => And.left)
      fun _ _ => False.elim

/-- Requests in whose course faults may be serviced and contexts recovered, beside updates that wait
for the hardware. -/
def Request.recovers : Request → Bool
  | .waitWoken .. | .preempt .. | .disableEngine .. | .disableAll .. | .waitIdle .. | .recover .. |
    .interrupts .. | .service => true
  | _ => false

/-- Requests that recover leave it alone who is bound, grouped and attached. -/
theorem Request.alters_of_recovers (request : Request) (recovers : request.recovers = true) :
    request.alters = false := by
  have apart : (request.recovers && request.alters) = false := by
    cases request <;> rfl
  rwa [recovers, Bool.true_and] at apart

namespace Session

variable {request : Request} {session : Session} {handle : Nat}

/-- The lists that a request hands over, the first one first. -/
def handedLists (session : Session) (request : Request) : List HandedList :=
  (session.plan request).handedLists session.scheduler

/-- What holds of the lists that are handed over for each channel holds of those for the channel
under a handle. -/
theorem forall_planOn {property : HandedList → Prop} {each : Nat → Plan request Reply}
    (holds : ∀ channel, ∀ handed ∈ (each channel).handedLists session.scheduler, property handed) :
    ∀ handed ∈ (session.planOn handle each).handedLists session.scheduler, property handed := by
  unfold planOn
  split
  · exact holds _
  · exact Script.forall_idle

/-- What holds of the lists of a script holds of them if a handle is taken. -/
theorem forall_planUnlessTaken {property : HandedList → Prop} {script : Plan request Reply}
    (holds : ∀ handed ∈ script.handedLists session.scheduler, property handed) :
    ∀ handed ∈ (session.planUnlessTaken handle script).handedLists session.scheduler,
      property handed := by
  unfold planUnlessTaken
  split
  · exact Script.forall_idle
  · exact holds

/-- What holds of the lists that updates of an intact scheduler hand over holds of those that a
request without recovery hands over. -/
theorem forall_handedLists_of_calm {property : HandedList → Prop} {exact : Prop}
    (each : ∀ {scheduler : Scheduler}, scheduler.Intact exact →
      scheduler.config = session.scheduler.config →
      ∀ {list : Nat} {id : Option Nat} {add : Bool}, ∀ handed ∈ scheduler.handedLists list id add,
        property handed)
    (intact : session.scheduler.Intact exact) (calm : request.recovers = false) :
    ∀ handed ∈ session.handedLists request, property handed := by
  cases request with
  | update list id add wait => exact Script.forall_answering (each intact rfl)
  | drop handle =>
    exact forall_planOn fun id =>
      Script.forall_answering (Script.forall_drop _ _ _ each intact rfl id)
  | acknowledge handle =>
    exact forall_planOn fun id =>
      Script.forall_answering (Script.forall_acknowledgeFault _ each intact rfl id)
  | leave handle =>
    exact forall_planOn fun id =>
      Script.forall_answering (Script.forall_leaveGroup _ _ each intact rfl id)
  | bind handle binding =>
    exact forall_planUnlessTaken (Script.forall_mapping (Script.forall_act fun _ => rfl))
  | retain handle channel =>
    exact forall_planUnlessTaken
      (Script.forall_mapping (Script.forall_answering Script.forall_idle))
  | duplicate handle source =>
    exact forall_planUnlessTaken (forall_planOn fun _ => forall_planUnlessTaken
      (Script.forall_mapping (Script.forall_answering Script.forall_idle)))
  | join handle group =>
    exact forall_planOn fun _ => Script.forall_answering (Script.forall_act fun _ => rfl)
  | channel handle => exact forall_planOn fun _ => Script.forall_mapping Script.forall_idle
  | enabled handle => exact forall_planOn fun _ => Script.forall_mapping Script.forall_idle
  | enable handle => exact forall_planOn fun _ => Script.forall_answering Script.forall_idle
  | disable handle => exact forall_planOn fun _ => Script.forall_answering Script.forall_idle
  | notify handle => exact forall_planOn fun _ => Script.forall_answering Script.forall_idle
  | wait handle => exact forall_planOn fun _ => Script.forall_answering Script.forall_idle
  | createGroup list => exact Script.forall_mapping (Script.forall_act fun _ => rfl)
  | destroyGroup group => exact Script.forall_answering (Script.forall_act fun _ => rfl)
  | timeslice group timeslice => exact Script.forall_answering (Script.forall_act fun _ => rfl)
  | attach target => exact Script.forall_answering (Script.forall_act fun _ => rfl)
  | detach target => exact Script.forall_answering (Script.forall_act fun _ => rfl)
  | inject event => exact Script.forall_answering (Script.forall_act fun _ => rfl)
  | state channel => exact Script.forall_mapping Script.forall_idle
  | snapshot list => exact Script.forall_mapping Script.forall_idle
  | active list => exact Script.forall_mapping Script.forall_idle
  | members group => exact Script.forall_mapping Script.forall_idle
  | enableEngine id =>
    exact Script.forall_answering (Script.forall_read fun _ => Script.forall_act fun _ => rfl)
  | enableAll =>
    exact Script.forall_answering (Script.forall_bind Script.forall_idle fun _ =>
      Script.forall_forM _ fun _ _ => Script.forall_read fun _ => Script.forall_act fun _ => rfl)
  | waitWoken handle waker => cases calm
  | preempt target => cases calm
  | disableEngine id waitIdle => cases calm
  | disableAll waitIdle => cases calm
  | waitIdle id => cases calm
  | recover target reason => cases calm
  | interrupts status => cases calm
  | service => cases calm

/-- Requests that do not recover hand over no list with a faulted channel. -/
theorem safe_of_mem (intact : session.scheduler.Intact True) (calm : request.recovers = false) :
    ∀ handed ∈ session.handedLists request, handed.Safe :=
  forall_handedLists_of_calm (fun intact _ => fun _ mem => HandedList.safe_of_mem intact mem)
    intact calm

/-- A step of a request that recovers disables or enables an engine, and hands nothing over. -/
theorem pauses_of_recovers (recovers : request.recovers = true) {α : Type} (step : Act α)
    (isFor : step.IsFor request) : step.Pauses := by
  cases step with
  | update list id add wait =>
    have own : request = .update list id add wait := isFor
    subst own
    cases recovers
  | withdraw list id =>
    obtain ⟨handle, rfl | rfl⟩ := isFor
    · cases recovers
    · cases recovers
  | switch engine disabled => exact Act.pauses_switch engine disabled
  | resets id group =>
    obtain ⟨handle, rfl⟩ := isFor
    cases recovers
  | alter operation alters =>
    have altering : request.alters = true := isFor
    rw [request.alters_of_recovers recovers] at altering
    cases altering
  | event injection =>
    have own : request = .inject injection := isFor
    subst own
    cases recovers

variable {config : Config} {machine : Machine}

/-- Along every run on hardware whose engines run only what is on their runlists, and can be told
apart by their faults, the lists that the hardware is handed are those in the traces of requests. A
list names a faulted channel only in the course of recovery: the request has marked the channel
itself, hands over a list of the runlist without it later on, and leaves it in no active set. -/
theorem faulted_superseded (distinct : (config.engines.map (·.faultId)).Nodup)
    (reached : Reached config machine Scheduler.Honest session)
    (honest : session.scheduler.Honest) (request : Request) :
    (perform request session).2.scheduler.machine.bus.hardware.submissions =
        (session.handedLists request).reverse.filterMap HandedList.submission? ++
          session.scheduler.machine.bus.hardware.submissions ∧
      ∀ handed later, handed :: later <:+ session.handedLists request →
        handed.Submitted ∧
          ∀ id, handed.Lists id → handed.scheduler.FaultedAt id →
            request.recovers = true ∧ ¬session.scheduler.FaultedAt id ∧
              (∃ next ∈ later, next.runlist = handed.runlist ∧ ¬next.Lists id) ∧
              ∀ list, (perform request session).2.scheduler.activeOn list id = false := by
  obtain ⟨intact, same⟩ := reached.intact True fun _ same honest _ =>
    trusted_of_honest distinct same honest
  have kept := (intact_perform intact (fun _ => trusted_of_honest distinct same honest) request).1
  rw [scheduler_perform] at kept ⊢
  refine ⟨((session.plan request).records intact.sound.shaped.fit).2, fun handed later suffix => ?_⟩
  cases recovers : request.recovers with
  | false =>
    have safe := safe_of_mem intact recovers handed (suffix.subset List.mem_cons_self)
    exact ⟨safe.submitted, fun id lists faulted => absurd faulted (safe.spared id lists)⟩
  | true =>
    have passes := (session.plan request).passes
      (fun _ step isFor => pauses_of_recovers recovers step isFor) intact.sound suffix
    refine ⟨passes.submitted, fun id lists faulted => ?_⟩
    have on := passes.lists id lists
    have off : ∀ list,
        ((session.plan request).run session.scheduler).2.activeOn list id = false := by
      intro list
      rw [Bool.eq_false_iff]
      intro still
      obtain ⟨channel, found, active, -⟩ := (kept.coherent.active list id).mp still
      obtain ⟨earlier, held, isActive⟩ := passes.onward.active id ⟨channel, found, active⟩
      unfold Scheduler.FaultedAt at faulted
      rw [held, Option.map_some, isActive] at faulted
      cases faulted
    have unmarked := Scheduler.not_faultedAt_of_active (intact.stopped trivial)
      (passes.since.on handed.runlist id on)
    exact ⟨rfl, unmarked, passes.superseded handed.runlist id on (off _), off⟩

/-- A request hands over a list with a faulted channel in some session that is reached. -/
def Exposes (config : Config) (usual : Scheduler → Prop) (request : Request) : Prop :=
  ∃ session handed id, Reached config poweredUp usual session ∧
    handed ∈ session.handedLists request ∧ handed.Lists id ∧ handed.scheduler.FaultedAt id

/-- What can be computed of a run shows that it hands over a faulted channel. -/
theorem exposes_of_run {usual : Scheduler → Prop} [DecidablePred usual] {requests : List Request}
    {id : Nat} (outcome : (Scheduler.create config poweredUp).toOption.map (fun scheduler => decide
      ((∀ done ∈ requests.inits, usual (performAll { scheduler } done).scheduler) ∧
        ∃ handed ∈ (performAll { scheduler } requests).handedLists request,
          handed.Lists id ∧ handed.scheduler.FaultedAt id)) = some true) :
    Exposes config usual request := by
  obtain ⟨scheduler, created, holds⟩ := exists_created outcome
  obtain ⟨each, handed, mem, lists, faulted⟩ := decide_eq_true_iff.mp holds
  exact ⟨_, handed, id, (Reached.created created).performAll each, mem, lists, faulted⟩

/-- Two channels of a group are active. -/
def activeGroup : List Request :=
  [.bind 0 { runlist := 0 }, .bind 1 { runlist := 0 }, .createGroup 0, .join 0 0, .join 1 0,
    .update 0 (some 0) true false, .update 0 (some 1) true false]

/-- A group is recovered: the first list that is handed over names the channel that is marked and
still to be removed, and a later one does not. -/
theorem superseded_in_group : ∃ session handed later,
    Reached oneEngine poweredUp Scheduler.Honest session ∧ session.scheduler.Honest ∧
      handed :: later <:+ session.handedLists (.recover (.group 0) .forced) ∧
      handed.Lists 1 ∧ handed.scheduler.FaultedAt 1 ∧
      (∃ next ∈ later, next.runlist = handed.runlist ∧ ¬next.Lists 1) ∧
      ∀ list, (perform (.recover (.group 0) .forced) session).2.scheduler.activeOn list 1 =
        false := by
  have outcome : (Scheduler.create oneEngine poweredUp).toOption.map (fun scheduler => decide
      ((∀ done ∈ activeGroup.inits, (performAll { scheduler } done).scheduler.Honest) ∧
        ∃ handed ∈ (performAll { scheduler } activeGroup).handedLists (.recover (.group 0) .forced),
          handed.Lists 1 ∧ handed.scheduler.FaultedAt 1)) = some true := by decide +kernel
  obtain ⟨scheduler, created, holds⟩ := exists_created outcome
  obtain ⟨honest, handed, mem, lists, faulted⟩ := decide_eq_true_iff.mp holds
  have reached := (Reached.created created).performAll honest
  have last : (performAll { scheduler } activeGroup).scheduler.Honest :=
    honest _ ((List.mem_inits _ _).mpr List.prefix_rfl)
  obtain ⟨earlier, later, trace⟩ := List.append_of_mem mem
  have suffix : handed :: later <:+
      (performAll { scheduler } activeGroup).handedLists (.recover (.group 0) .forced) :=
    ⟨earlier, trace.symm⟩
  obtain ⟨-, each⟩ := faulted_superseded (by decide) reached last (.recover (.group 0) .forced)
  obtain ⟨-, -, superseded, off⟩ := (each handed later suffix).2 1 lists faulted
  exact ⟨_, handed, later, reached, last, suffix, lists, faulted, superseded, off⟩

/-- An engine on each of two runlists. -/
def twoLists : Config :=
  { oneEngine with
    channelCount := 3
    engines := [{ id := 0, kind := .graphics, runlist := 0 },
      { id := 1, kind := .copy, runlist := 1 }] }

/-- Two engines on different runlists that report the same fault. -/
def sharedFault : Config :=
  { twoLists with
    engines := [{ id := 0, kind := .graphics, runlist := 0 },
      { id := 1, kind := .copy, runlist := 1, faultId := 0 }] }

/-- A list can name a faulted channel: in the recovery of a group; where an engine runs a channel
that is not on its runlist, and a timeout marks the channel; and where the fault of one engine
cannot be told from that of another. -/
theorem faulted_listed :
    Exposes oneEngine Scheduler.Honest (.recover (.group 0) .forced) ∧
      Exposes twoLists (fun _ => True) (.update 1 (some 2) true false) ∧
      Exposes sharedFault Scheduler.Honest (.update 0 (some 2) true false) := by
  have recovered : (Scheduler.create oneEngine poweredUp).toOption.map (fun scheduler => decide
      ((∀ done ∈ activeGroup.inits, (performAll { scheduler } done).scheduler.Honest) ∧
        ∃ handed ∈ (performAll { scheduler } activeGroup).handedLists (.recover (.group 0) .forced),
          handed.Lists 1 ∧ handed.scheduler.FaultedAt 1)) = some true := by decide +kernel
  let timesOut : List Request :=
    [.bind 0 { runlist := 0 }, .bind 1 { runlist := 1 }, .bind 2 { runlist := 1 },
      .update 1 (some 1) true false, .inject (.engineStatus 0 (.running (.channel 1))),
      .inject (.hangRunlist 0 .forever), .update 0 (some 0) true true]
  have elsewhere : (Scheduler.create twoLists poweredUp).toOption.map (fun scheduler => decide
      ((∀ done ∈ timesOut.inits, True) ∧
        ∃ handed ∈ (performAll { scheduler } timesOut).handedLists (.update 1 (some 2) true false),
          handed.Lists 1 ∧ handed.scheduler.FaultedAt 1)) = some true := by decide +kernel
  let blames : List Request :=
    [.bind 0 { runlist := 0 }, .bind 1 { runlist := 1 }, .bind 2 { runlist := 0 },
      .update 0 (some 0) true false, .inject (.engineStatus 0 (.running (.channel 0))),
      .inject (.hangRunlist 1 .forever), .update 1 (some 1) true true]
  have shared : (Scheduler.create sharedFault poweredUp).toOption.map (fun scheduler => decide
      ((∀ done ∈ blames.inits, (performAll { scheduler } done).scheduler.Honest) ∧
        ∃ handed ∈ (performAll { scheduler } blames).handedLists (.update 0 (some 2) true false),
          handed.Lists 0 ∧ handed.scheduler.FaultedAt 0)) = some true := by decide +kernel
  exact ⟨exposes_of_run recovered, exposes_of_run elsewhere, exposes_of_run shared⟩

end Session

end GpuSched
