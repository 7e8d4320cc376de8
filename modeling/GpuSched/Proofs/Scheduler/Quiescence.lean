import GpuSched.Proofs.Scheduler.Gates

/-!
# How long a runlist stays disabled

A runlist is lifted by a request that enables an engine of it, by a refused request to disable an
engine of it, which takes its own change back, and by a write of the disable bits from outside. No
other request, be it the service of interrupts, a recovery, a timeout or a release, enables a
runlist for which a reset waits; and after an engine has been disabled its runlist stays disabled
until it is lifted or an engine of it is reset.
-/
namespace GpuSched

open Operation

namespace Simulation

variable {sim hardware : Simulation} {event : Injection}

/-- An event leaves the disable bits alone, unless it writes them. -/
theorem word_inject (injects : sim.inject event = .ok hardware)
    (others : ∀ value, event ≠ .word Register.schedulerDisable value) :
    hardware.word Register.schedulerDisable = sim.word Register.schedulerDisable := by
  have past : ∀ {bank : RegisterBank} {index offset : Nat}, bank.slot index = .ok offset →
      Register.schedulerDisable < bank.base → Register.schedulerDisable ≠ offset := by
    intro bank index offset slot past
    obtain ⟨_, rfl⟩ := Checked.fit_eq_ok_iff.mp slot
    omega
  have raises : ∀ (sim : Simulation) (offset : Nat) (bits : UInt32),
      Register.schedulerDisable ≠ offset →
      (sim.raiseBits offset bits).word Register.schedulerDisable =
        sim.word Register.schedulerDisable := fun sim offset bits apart =>
    (word_setWord sim offset _ _).trans (if_neg apart)
  cases event with
  | word offset value =>
    cases injects
    refine (word_setWord _ _ _ _).trans (if_neg fun own => others value ?_)
    rw [own]
  | engineStatus engine status =>
    obtain ⟨offset, slot, rest⟩ := bind_eq_ok_iff.mp injects
    cases rest
    exact (word_setWord _ _ _ _).trans (if_neg (past slot (by decide)))
  | pbdmaStatus pbdma status =>
    obtain ⟨offset, slot, rest⟩ := bind_eq_ok_iff.mp injects
    cases rest
    exact (word_setWord _ _ _ _).trans (if_neg (past slot (by decide)))
  | hangRunlist runlist mode =>
    cases injects
    rfl
  | hangPreempt mode =>
    cases injects
    rfl
  | fault faultId words =>
    obtain ⟨one, inst, rest⟩ := bind_eq_ok_iff.mp injects
    obtain ⟨two, low, rest⟩ := bind_eq_ok_iff.mp rest
    obtain ⟨three, high, rest⟩ := bind_eq_ok_iff.mp rest
    obtain ⟨four, info, rest⟩ := bind_eq_ok_iff.mp rest
    obtain ⟨bit, _, rest⟩ := bind_eq_ok_iff.mp rest
    cases rest
    rw [word_setWord, if_neg (by decide), raises _ _ _ (by decide), raises _ _ _ (by decide),
      word_setWord, if_neg (past info (by decide)), word_setWord, if_neg (past high (by decide)),
      word_setWord, if_neg (past low (by decide)), word_setWord, if_neg (past inst (by decide))]
  | schedulerError code =>
    cases injects
    rw [raiseSchedulerError, raises _ _ _ (by decide), word_setWord, if_neg (by decide)]
  | pbdmaInterrupt pbdma bits =>
    obtain ⟨offset, slot, rest⟩ := bind_eq_ok_iff.mp injects
    obtain ⟨bit, _, rest⟩ := bind_eq_ok_iff.mp rest
    cases rest
    rw [raises _ _ _ (by decide), raises _ _ _ (by decide), raises _ _ _ (past slot (by decide))]

end Simulation

namespace Scheduler

variable {scheduler before after : Scheduler} {list id : Nat} {engine : Engine}

/-- An event leaves disabled runlists alone, unless it writes the disable bits without theirs. -/
theorem minds_inject (event : Injection)
    (sets : ∀ value, event = .word Register.schedulerDisable value →
      list ∈ Simulation.setBits value) :
    Respects (Within Fit (Minds list)) (Act.inject event) := by
  intro scheduler fit
  rw [Act.state_inject]
  cases injects : scheduler.machine.bus.hardware.inject event with
  | error failure => exact ⟨fit, Std.Refl.refl _⟩
  | ok hardware =>
    refine ⟨fit.same rfl rfl, ?_⟩
    by_cases writes : ∃ value, event = .word Register.schedulerDisable value
    · obtain ⟨value, rfl⟩ := writes
      cases injects
      have disables : list ∈ Simulation.setBits
          ((scheduler.machine.bus.hardware.setWord Register.schedulerDisable value).word
            Register.schedulerDisable) := by
        rw [Simulation.word_setWord, if_pos rfl]
        exact sets value rfl
      exact ⟨rfl, List.suffix_rfl, fun _ _ => disables, fun _ _ => .inl disables⟩
    · exact minds_of_same rfl rfl List.suffix_rfl
        (Simulation.word_inject injects fun value same => writes ⟨value, same⟩)

/-- An event leaves the resets that wait as they are. -/
theorem owes_inject (event : Injection) (scheduler : Scheduler) :
    (Act.inject event scheduler).2.Owes list ↔ scheduler.Owes list := by
  rw [Act.state_inject]
  cases scheduler.machine.bus.hardware.inject event with
  | error failure => rfl
  | ok hardware => exact Iff.rfl

/-- An engine with a number is on a runlist. -/
def Runs (scheduler : Scheduler) (list id : Nat) : Prop :=
  ∃ engine ∈ scheduler.config.engines, engine.id = id ∧ engine.runlist = list

/-- The engine with a number is on one runlist only. -/
theorem Fit.runs_iff (fit : scheduler.Fit) {engine : Engine}
    (mem : engine ∈ scheduler.config.engines) :
    scheduler.Runs list engine.id ↔ engine.runlist = list := by
  refine ⟨?_, fun here => ⟨engine, mem, rfl, here⟩⟩
  rintro ⟨other, isEngine, number, rfl⟩
  rw [Config.engine_eq fit.accepted mem isEngine number.symm]

/-- An engine that is named is answered if there is one. -/
theorem yields_numbered (scheduler : Scheduler) (id : Nat) :
    (Scheduler.engine id).Yields scheduler
      (fun engine after => scheduler = after ∧ engine ∈ scheduler.config.engines ∧ engine.id = id)
      fun _ after => scheduler = after := by
  unfold Scheduler.engine
  rw [yields_bind, yields_get]
  cases found : scheduler.config.engines.find? (·.id = id) with
  | none => rfl
  | some engine =>
    exact ⟨rfl, List.mem_of_find?_eq_some found, by simpa using List.find?_some found⟩

/-- A target that is preempted in time is not recovered. -/
theorem delivers_preemptTarget (target : Target) : Delivers Idles (preemptTarget target) := by
  refine (idles_onBus (Device.idles_issuePreempt target)).delivers.bind fun _ => ?_
  refine respects_get.delivers.bind fun read => ?_
  refine (idles_waitFor _ (Device.idles_preemptPending.map not)).delivers.bind fun done => ?_
  cases done with
  | true => exact (respects_pure _).delivers
  | false => exact delivers_refused _ _

/-- An engine that is idle in time is not recovered. -/
theorem delivers_waitEngineIdle (id : Nat) : Delivers Idles (waitEngineIdle id) := by
  refine (reads_engine id).respects.delivers.bind fun engine => ?_
  refine respects_get.delivers.bind fun read => ?_
  refine (idles_waitFor _ (Script.idles_engineIdle engine.id)).delivers.bind fun isIdle => ?_
  cases isIdle with
  | true => exact (respects_pure _).delivers
  | false => exact delivers_refused _ _

/-- An engine that is quieted in time is not recovered, nor is what it ran. -/
theorem delivers_quiesce (engine : Engine) (waitIdle : Bool) :
    Delivers Idles (quiesce engine waitIdle) := by
  have waits : Delivers Idles (if waitIdle then waitEngineIdle engine.id else pure ()) := by
    split
    · exact delivers_waitEngineIdle engine.id
    · exact (respects_pure _).delivers
  have stops : ∀ fetching, Delivers Idles (quiesceRunning engine waitIdle fetching) := by
    intro fetching
    refine (idles_engineStatus engine.id).delivers.bind fun status => ?_
    cases status.resident with
    | none => exact waits
    | some target =>
      dsimp only
      split
      · exact (delivers_preemptTarget target).bind fun _ => waits
      · exact waits
  refine (idles_pbdmaStatus engine.pbdma).delivers.bind fun status => ?_
  cases status.resident with
  | none => exact stops none
  | some target => exact (delivers_preemptTarget target).bind fun _ => stops (some target)

/-- An engine that is disabled is quieted with its runlist disabled: an answer leaves it so. A
refusal takes the change of the disable bit back, unless the engine was found busy. -/
theorem yields_disableEngine (list : Nat) (fit : scheduler.Fit) (id : Nat) (waitIdle : Bool) :
    (disableEngine id waitIdle).Yields scheduler
      (fun _ after => after.Fit ∧ Minds list scheduler after ∧
        (scheduler.Runs list id → after.Disables list))
      fun failure after => after.Fit ∧ (Minds list scheduler after ∨
        (∃ error, failure = .refused error) ∧ scheduler.Runs list id ∧
          ((scheduler.statusOf id).busy = true → waitIdle = true)) := by
  unfold disableEngine
  rw [yields_bind]
  refine (yields_numbered scheduler id).mono ?_ ?_
  · rintro engine _ ⟨rfl, mem, number⟩
    have own : ∀ other, scheduler.Runs other id ↔ engine.runlist = other := by
      rw [← number]
      exact fun other => fit.runs_iff mem
    have inRange : engine.runlist < 32 := (fit.engineFits mem).runlist.trans (by decide)
    rw [yields_bind]
    refine (yields_statusOf (fit.engineFits mem).id).mono ?_ fun _ _ => False.elim
    rintro status looked ⟨rfl, idles⟩
    have fitLooked : looked.Fit := idles.toStays.fit fit
    have mindsLooked : Minds list scheduler looked := idles.tends.minds
    split
    · exact ⟨fitLooked, .inl mindsLooked⟩
    · rename_i goesOn
      rw [yields_bind]
      refine (yields_toggles inRange true).mono ?_ fun _ _ => False.elim
      intro _ disabled disables
      have mindsDisabled : Minds list scheduler disabled :=
        IsTrans.trans _ _ _ mindsLooked (disables.minds (by simp))
      have quiets : Respects (Within Fit (Minds list)) (quiesce engine waitIdle) := by
        let script : Script (fun _ _ => False) Unit := .quiesce engine waitIdle
        have spelled : script.run = quiesce engine waitIdle := Script.run_quiesce engine waitIdle
        rw [← spelled]
        exact script.respects recovers_minds fun _ _ => False.elim
      rw [yields_bind, yields_attempt]
      refine ((respects_iff_yields.mp quiets disabled).and
        (delivers_quiesce engine waitIdle disabled)).mono ?_ ?_
      · rintro _ quieted ⟨within, idles⟩
        obtain ⟨fitQuieted, mindsQuieted⟩ := within (disables.toStays.fit fitLooked)
        refine ⟨fitQuieted, IsTrans.trans _ _ _ mindsDisabled mindsQuieted, fun runs => ?_⟩
        rw [← (own list).mp runs]
        unfold Disables
        rw [idles.disabled]
        exact disables.own.mpr rfl
      · rintro failure stopped ⟨within, -⟩
        obtain ⟨fitStopped, mindsStopped⟩ := within (disables.toStays.fit fitLooked)
        have soFar : Minds list scheduler stopped :=
          IsTrans.trans _ _ _ mindsDisabled mindsStopped
        cases failure with
        | aborted reason => exact ⟨fitStopped, .inl soFar⟩
        | refused error =>
          change (setEngineDisabled engine false >>= fun _ => refuse error).Yields stopped _ _
          rw [yields_bind]
          refine (yields_toggles inRange false).mono ?_ fun _ _ => False.elim
          intro _ enabled enables
          refine ⟨enables.toStays.fit fitStopped, ?_⟩
          by_cases here : engine.runlist = list
          · refine .inr ⟨⟨error, rfl⟩, (own list).mpr here, fun busy => ?_⟩
            rw [← number] at busy
            simpa [busy] using goesOn
          · exact .inl (IsTrans.trans _ _ _ soFar (enables.minds fun _ => here))
  · rintro failure after rfl
    exact ⟨fit, .inl (Std.Refl.refl _)⟩

/-- An engine can be enabled just when there is one with the number. -/
theorem yields_enableEngine (fit : scheduler.Fit) (id : Nat) :
    (enableEngine id).Yields scheduler
      (fun _ after => ∃ engine ∈ scheduler.config.engines, engine.id = id ∧
        Toggles engine false scheduler after)
      fun failure after => (∃ error, failure = .refused error) ∧ scheduler = after ∧
        ∀ engine ∈ scheduler.config.engines, engine.id ≠ id := by
  unfold enableEngine Scheduler.engine
  rw [yields_bind, yields_bind, yields_get]
  cases found : scheduler.config.engines.find? (·.id = id) with
  | none => exact ⟨⟨_, rfl⟩, rfl, by simpa using found⟩
  | some engine =>
    have mem := List.mem_of_find?_eq_some found
    have number : engine.id = id := by simpa using List.find?_some found
    have inRange : engine.runlist < 32 := (fit.engineFits mem).runlist.trans (by decide)
    exact (yields_toggles inRange false).mono
      (fun _ after enables => ⟨engine, mem, number, enables⟩) fun _ _ => False.elim

/-- An engine of another runlist is enabled. -/
theorem minds_enableEngine (apart : ¬scheduler.Runs list id) :
    Within Fit (Minds list) scheduler (enableEngine id scheduler).2 := by
  intro fit
  have keeps : (enableEngine id).Yields scheduler
      (fun _ after => after.Fit ∧ Minds list scheduler after)
      fun _ after => after.Fit ∧ Minds list scheduler after := by
    refine (yields_enableEngine fit id).mono ?_ ?_
    · rintro _ after ⟨engine, mem, number, enables⟩
      exact ⟨enables.toStays.fit fit,
        enables.minds fun _ here => apart ⟨engine, mem, number, here⟩⟩
    · rintro _ _ ⟨-, rfl, -⟩
      exact ⟨fit, Std.Refl.refl _⟩
  exact keeps.holds

/-- No engine is on a runlist. -/
structure Vacant (list : Nat) (scheduler : Scheduler) : Prop extends scheduler.Fit where
  vacant : ∀ engine ∈ scheduler.config.engines, engine.runlist ≠ list

/-- Where no engine is on a runlist, enabling engines leaves it alone. -/
theorem vacant_enableEngine (list id : Nat) :
    Respects (Within (Vacant list) (Minds list)) (enableEngine id) := by
  intro scheduler vacant
  have apart : ¬scheduler.Runs list id :=
    fun ⟨engine, mem, _, here⟩ => vacant.vacant engine mem here
  obtain ⟨fit, minds⟩ := minds_enableEngine apart vacant.toFit
  exact ⟨⟨fit, by rw [minds.config]; exact vacant.vacant⟩, minds⟩

/-- Disabling engines one after the other leaves disabled runlists alone, unless it is refused. -/
theorem yields_disableEngines (list : Nat) (fit : scheduler.Fit) (waitIdle : Bool)
    (ids disabled : List Nat) :
    (disableEngines waitIdle ids disabled).Yields scheduler
      (fun _ after => after.Fit ∧ Minds list scheduler after)
      fun failure after => after.Fit ∧ (Minds list scheduler after ∨
        (∃ error, failure = .refused error) ∧
          ∃ engine ∈ scheduler.config.engines, engine.runlist = list) := by
  induction ids generalizing scheduler disabled with
  | nil => exact ⟨fit, Std.Refl.refl _⟩
  | cons id rest ih =>
    unfold disableEngines
    rw [yields_bind, yields_attempt]
    refine (yields_disableEngine list fit id waitIdle).mono ?_ ?_
    · rintro _ middle ⟨fitMiddle, minds, -⟩
      refine (ih fitMiddle (id :: disabled)).mono
        (fun _ _ => And.imp_right (IsTrans.trans _ _ _ minds)) ?_
      rintro failure after ⟨fitAfter, goesOn | ⟨refused, engine, mem, here⟩⟩
      · exact ⟨fitAfter, .inl (IsTrans.trans _ _ _ minds goesOn)⟩
      · rw [minds.config] at mem
        exact ⟨fitAfter, .inr ⟨refused, engine, mem, here⟩⟩
    · rintro (error | reason) middle ⟨fitMiddle, outcome⟩
      · change ((disabled.reverse.forM fun id => (enableEngine id).disregard) >>=
          fun _ => refuse error).Yields middle _ _
        rw [yields_bind]
        by_cases someEngine : ∃ engine ∈ scheduler.config.engines, engine.runlist = list
        · refine (yields_forM_of_kept fitMiddle fun id _ state fit => ?_).mono
            (fun _ _ fit => ⟨fit, .inr ⟨⟨error, rfl⟩, someEngine⟩⟩) fun _ _ => False.elim
          rw [yields_disregard]
          refine (yields_enableEngine fit id).mono ?_ ?_
          · rintro _ after ⟨engine, -, -, enables⟩
            exact enables.toStays.fit fit
          · rintro _ _ ⟨⟨error, rfl⟩, rfl, -⟩
            exact fit
        · have minds : Minds list scheduler middle := by
            refine outcome.resolve_right ?_
            rintro ⟨-, ⟨engine, mem, -, here⟩, -⟩
            exact someEngine ⟨engine, mem, here⟩
          have vacant : Vacant list middle := by
            refine ⟨fitMiddle, fun engine mem here => someEngine ⟨engine, ?_, here⟩⟩
            rwa [← minds.config]
          have enables := respects_iff_yields.mp (respects_forM
            (fun id => (vacant_enableEngine list id).disregard) disabled.reverse) middle
          refine enables.mono (fun _ after within => ?_) fun _ after within => ?_
          · obtain ⟨still, goesOn⟩ := within vacant
            exact ⟨still.toFit, .inl (IsTrans.trans _ _ _ minds goesOn)⟩
          · obtain ⟨still, goesOn⟩ := within vacant
            exact ⟨still.toFit, .inl (IsTrans.trans _ _ _ minds goesOn)⟩
      · refine ⟨fitMiddle, outcome.imp_right ?_⟩
        rintro ⟨⟨error, refused⟩, -⟩
        cases refused

/-- Every engine is disabled, in the order of the configuration. -/
theorem run_disableAllEngines (waitIdle : Bool) (scheduler : Scheduler) :
    disableAllEngines waitIdle scheduler =
      disableEngines waitIdle (scheduler.config.engines.map (·.id)) [] scheduler :=
  run_bind_of_ok rfl

end Scheduler

namespace Session

variable {config : Config} {machine : Machine} {usual : Scheduler → Prop}
  {start session later : Session} {list : Nat}

/-- A request is refused. -/
def Refuses (session : Session) (request : Request) : Prop :=
  ∃ error, (perform request session).1 = .error (.refused error)

/-- The requests that may clear the disable bit of a runlist: those that enable its engines, those
that are refused to disable them, and a write from outside. To refuse a busy engine clears
nothing. -/
def Lifts (list : Nat) (session : Session) : Request → Prop
  | .enableEngine id => session.scheduler.Runs list id
  | .enableAll => ∃ engine ∈ session.scheduler.config.engines, engine.runlist = list
  | .disableEngine id waitIdle =>
      session.Refuses (.disableEngine id waitIdle) ∧ session.scheduler.Runs list id ∧
        ((session.scheduler.statusOf id).busy = true → waitIdle = true)
  | .disableAll waitIdle =>
      session.Refuses (.disableAll waitIdle) ∧
        ∃ engine ∈ session.scheduler.config.engines, engine.runlist = list
  | .inject (.word offset value) =>
      offset = Register.schedulerDisable ∧ list ∉ Simulation.setBits value
  | _ => False

/-- A call whose own answer is of no interest ends like the call. -/
theorem call_done (operation : Operation Scheduler Unit) (session : Session) :
    call (operation *> pure Reply.done) session =
      ((operation session.scheduler).1.map fun _ => .done,
        { session with scheduler := (operation session.scheduler).2 }) := by
  have runs : (operation *> pure Reply.done : Operation Scheduler Reply) session.scheduler =
      ((operation session.scheduler).1.map fun _ => .done, (operation session.scheduler).2) := by
    rw [seqRight_eq_bind, run_bind]
    rcases operation session.scheduler with ⟨_ | _, _⟩
    · rfl
    · rfl
  unfold call focus
  simp only [ExceptT.mk]
  rw [runs]

section Switches

variable {id : Nat} {waitIdle : Bool}

/-- An engine is disabled. -/
theorem minds_disable (stays : ¬session.Lifts list (.disableEngine id waitIdle)) :
    Along (Within Scheduler.Fit (Scheduler.Minds list)) session
      (perform (.disableEngine id waitIdle) session).2 := by
  intro fit
  have whole : perform (.disableEngine id waitIdle) session = _ :=
    call_done (Scheduler.disableEngine id waitIdle) session
  have yields := Scheduler.yields_disableEngine list fit id waitIdle
  rcases run : Scheduler.disableEngine id waitIdle session.scheduler with ⟨failure | _, after⟩
  · rw [run] at whole
    rw [whole]
    obtain ⟨fitAfter, minds | ⟨⟨error, rfl⟩, runs, idle⟩⟩ := yields.of_error run
    · exact ⟨fitAfter, minds⟩
    · exact absurd ⟨⟨error, congrArg Prod.fst whole⟩, runs, idle⟩ stays
  · rw [whole, run]
    obtain ⟨fitAfter, minds, -⟩ := yields.of_ok run
    exact ⟨fitAfter, minds⟩

/-- An engine is enabled. -/
theorem minds_enable (stays : ¬session.Lifts list (.enableEngine id)) :
    Along (Within Scheduler.Fit (Scheduler.Minds list)) session
      (perform (.enableEngine id) session).2 := by
  have whole : perform (.enableEngine id) session = _ :=
    call_done (Scheduler.enableEngine id) session
  rw [whole]
  exact Scheduler.minds_enableEngine stays

/-- Every engine is disabled. -/
theorem minds_disableAll (stays : ¬session.Lifts list (.disableAll waitIdle)) :
    Along (Within Scheduler.Fit (Scheduler.Minds list)) session
      (perform (.disableAll waitIdle) session).2 := by
  intro fit
  have whole : perform (.disableAll waitIdle) session = _ :=
    call_done (Scheduler.disableAllEngines waitIdle) session
  have reads := Scheduler.run_disableAllEngines waitIdle session.scheduler
  have yields := Scheduler.yields_disableEngines list fit waitIdle
    (session.scheduler.config.engines.map (·.id)) []
  rcases run : Scheduler.disableAllEngines waitIdle session.scheduler with ⟨failure | _, after⟩
  · rw [run] at whole
    rw [whole]
    obtain ⟨fitAfter, minds | ⟨⟨error, rfl⟩, someEngine⟩⟩ := yields.of_error (reads.symm.trans run)
    · exact ⟨fitAfter, minds⟩
    · exact absurd ⟨⟨error, congrArg Prod.fst whole⟩, someEngine⟩ stays
  · rw [whole, run]
    exact yields.of_ok (reads.symm.trans run)

/-- Every engine is enabled. -/
theorem minds_enableAll (stays : ¬session.Lifts list .enableAll) :
    Along (Within Scheduler.Fit (Scheduler.Minds list)) session (perform .enableAll session).2 := by
  intro fit
  have whole : perform .enableAll session = _ := call_done Scheduler.enableAllEngines session
  have vacant : Scheduler.Vacant list session.scheduler :=
    ⟨fit, fun engine mem here => stays ⟨engine, mem, here⟩⟩
  have enables : Respects (Within (Scheduler.Vacant list) (Scheduler.Minds list))
      Scheduler.enableAllEngines := by
    unfold Scheduler.enableAllEngines
    refine respects_get.bind fun read => respects_forM (fun engine => ?_) _
    exact Scheduler.vacant_enableEngine list engine.id
  obtain ⟨still, minds⟩ := enables session.scheduler vacant
  rw [whole]
  exact ⟨still.toFit, minds⟩

end Switches

/-- A request that does not lift a runlist leaves it disabled while a reset waits for it, and after
it was disabled until an engine of it is reset. -/
theorem minds_perform {request : Request} (stays : ¬session.Lifts list request) :
    Along (Within Scheduler.Fit (Scheduler.Minds list)) session (perform request session).2 := by
  by_cases switches : request.switches = true
  · cases request
    case disableEngine => exact minds_disable stays
    case enableEngine => exact minds_enable stays
    case disableAll => exact minds_disableAll stays
    case enableAll => exact minds_enableAll stays
    all_goals cases switches
  · refine respects_plan Scheduler.recovers_minds (fun α step isFor => ?_) session
    cases step with
    | update other id add wait => exact Scheduler.minds_updateRunlist other id add wait
    | withdraw other id => exact Scheduler.minds_updateRunlist other (some id) false true
    | switch engine disabled => exact absurd isFor switches
    | resets id group => exact Scheduler.minds_runDeferredResets id group
    | alter operation alters =>
      exact alters.mono fun _ _ alters fit => ⟨alters.toStays.fit fit, alters.minds⟩
    | event injection =>
      refine Scheduler.minds_inject injection fun value same => ?_
      by_contra outside
      subst same
      have own : request = .inject (.word Register.schedulerDisable value) := isFor
      subst own
      exact stays ⟨rfl, outside⟩

/-- A scheduler that is reached is fit. -/
theorem Reached.fit (reached : Reached config machine usual session) : session.scheduler.Fit :=
  (reached.intact False fun _ _ _ => False.elim).1.sound.shaped.fit

/-- Requests that disable and enable engines put no reset off. -/
theorem defers_switches {request : Request} (switches : request.switches = true) :
    Along (Within Scheduler.Fit (Scheduler.Defers true)) session (perform request session).2 := by
  unfold Along
  rw [scheduler_perform]
  refine Script.respects_of_forces
    (fun _ _ idles fit => ⟨idles.toStays.fit fit, idles.tends.defers⟩)
    (fun forced => Scheduler.defers_handleFaults (some forced))
    (fun list id => Scheduler.defers_updateRunlist list (some id) false false) ?_
    (forces_plan switches session) session.scheduler
  intro α step isFor
  cases step with
  | update list id add wait => exact Scheduler.defers_updateRunlist list id add wait
  | withdraw list id => exact Scheduler.defers_updateRunlist list (some id) false true
  | switch engine disabled => exact Scheduler.defers_setEngineDisabled engine disabled
  | resets id group =>
    obtain ⟨handle, rfl⟩ := isFor
    cases switches
  | alter operation alters =>
    have altering : request.alters = true := isFor
    have apart : (request.switches && request.alters) = false := by
      cases request <;> rfl
    rw [switches, altering] at apart
    cases apart
  | event injection =>
    have own : request = .inject injection := isFor
    subst own
    cases switches

/-- A request that lifts a runlist puts no reset of its engines off. -/
theorem owes_of_lifts (fit : session.scheduler.Fit) {request : Request}
    (lifts : session.Lifts list request) (owes : (perform request session).2.scheduler.Owes list) :
    session.scheduler.Owes list := by
  by_cases switches : request.switches = true
  · exact (defers_switches switches fit).2.owes owes
  · cases request with
    | inject event =>
      rw [scheduler_perform] at owes
      change ((Script.answering _ Reply.done).run session.scheduler).2.Owes list at owes
      rw [scheduler_answering] at owes
      exact (Scheduler.owes_inject event session.scheduler).mp owes
    | enableEngine => exact absurd rfl switches
    | enableAll => exact absurd rfl switches
    | disableEngine => exact absurd rfl switches
    | disableAll => exact absurd rfl switches
    | _ => exact lifts.elim

/-- Along a run in which no request lifts a runlist while a reset waits for it, the runlist stays
gated. -/
theorem Since.gated (since : Since (fun session request =>
      session.scheduler.Owes list → ¬session.Lifts list request) start session)
    (intact : start.scheduler.Intact False) (gated : start.scheduler.Gated list) :
    session.scheduler.Intact False ∧ session.scheduler.Gated list := by
  induction since with
  | start => exact ⟨intact, gated⟩
  | @performed middle since request isAllowed ih =>
    obtain ⟨kept, closed⟩ := ih
    have fit := kept.sound.shaped.fit
    refine ⟨(intact_perform kept False.elim request).1, ?_⟩
    by_cases lifts : middle.Lifts list request
    · exact fun owes => absurd lifts (isAllowed (owes_of_lifts fit lifts owes))
    · exact (minds_perform lifts fit).2.gated closed

/-- Along every run in which no request lifts a runlist while the reset of one of its engines waits,
the runlist is disabled whenever such a reset waits, whatever else is requested and however it
ends. -/
theorem gated_until_lifted {scheduler : Scheduler}
    (created : Scheduler.create config machine = .ok scheduler)
    (since : Since (fun session request =>
      session.scheduler.Owes list → ¬session.Lifts list request) { scheduler } session) :
    session.scheduler.Gated list := by
  refine (since.gated (Scheduler.intact_of_create config.timely_endless created).1 fun owes => ?_).2
  obtain ⟨reset, waits, -⟩ := owes
  rw [Scheduler.deferred_of_create created] at waits
  cases waits

/-- A graphics engine whose contexts may be debugged, and a copy engine on its runlist. -/
def debuggedEngines : Config :=
  { oneEngine with
    engines := [{ id := 0, kind := .graphics, runlist := 0 },
      { id := 1, kind := .copy, runlist := 0 }]
    deferPolicy := .debugSessions }

/-- A channel that is debugged faults on the graphics engine, and the reset of the engine is put
off. -/
def faultsDebugged : List Request :=
  [.bind 0 { runlist := 0, instancePhysical := 0x5000 }, .update 0 (some 0) true false,
    .attach (.channel 0), .inject (.fault 0 { inst := 5, info := MemoryFault.clusterBit }),
    .service]

/-- The graphics engine faults, and then the copy engine. -/
def faultsBoth : List Request := faultsDebugged ++ [.inject (.fault 1 {}), .service]

/-- The graphics engine is enabled and then faults, and its reset waits; the copy engine faults and
is reset: the runlist stays disabled. -/
theorem gated_through_fault : ∃ scheduler session,
    Scheduler.create debuggedEngines poweredUp = .ok scheduler ∧
      session = performAll (perform (.enableEngine 0) { scheduler }).2 faultsBoth ∧
      session.scheduler.machine.bus.hardware.resets = [1] ∧ session.scheduler.Owes 0 ∧
      session.scheduler.Gated 0 := by
  have stays : ∀ request ∈ faultsBoth, ∀ session : Session,
      session.scheduler.Owes 0 → ¬session.Lifts 0 request := by
    simp [faultsBoth, faultsDebugged, Lifts]
  have outcome : (Scheduler.create debuggedEngines poweredUp).toOption.map (fun scheduler => decide
      (¬scheduler.Owes 0 ∧
        (performAll (perform (.enableEngine 0) { scheduler }).2 faultsBoth).scheduler.Owes 0 ∧
        (performAll (perform (.enableEngine 0) { scheduler }).2
          faultsBoth).scheduler.machine.bus.hardware.resets = [1])) = some true := by decide +kernel
  obtain ⟨scheduler, created, holds⟩ := exists_created outcome
  obtain ⟨none, owes, resets⟩ := decide_eq_true_iff.mp holds
  have first : Since (fun session request => session.scheduler.Owes 0 → ¬session.Lifts 0 request)
      { scheduler } (perform (.enableEngine 0) { scheduler }).2 :=
    .performed .start (.enableEngine 0) fun owes => absurd owes none
  exact ⟨scheduler, _, created, rfl, resets, owes,
    gated_until_lifted created (first.performAll_of_always stays)⟩

/-- An engine is enabled while its reset waits, and its runlist takes new work. -/
theorem lifted_while_waiting : ∃ session,
    Reached debuggedEngines poweredUp (fun _ => True) session ∧ session.scheduler.Owes 0 ∧
      ¬session.scheduler.Disables 0 := by
  let requests : List Request := faultsDebugged ++ [.enableEngine 0]
  have outcome : (Scheduler.create debuggedEngines poweredUp).toOption.map (fun scheduler => decide
      ((performAll { scheduler } requests).scheduler.Owes 0 ∧
        ¬(performAll { scheduler } requests).scheduler.Disables 0)) = some true := by
    decide +kernel
  obtain ⟨scheduler, created, holds⟩ := exists_created outcome
  obtain ⟨owes, lifted⟩ := decide_eq_true_iff.mp holds
  exact ⟨_, (Reached.created created).performAll fun _ _ => trivial, owes, lifted⟩

/-- Along every run, the runlist of an engine that was disabled stays disabled until a request lifts
it or an engine of it is reset, where engines can be told apart by their faults. -/
theorem disabled_until_lifted (distinct : (config.engines.map (·.faultId)).Nodup)
    (reached : Reached config machine usual session) {engine : Engine}
    (mem : engine ∈ config.engines) {waitIdle : Bool}
    (answers : (perform (.disableEngine engine.id waitIdle) session).1 = .ok .done)
    (since : Since (fun session request => ¬session.Lifts engine.runlist request)
      (perform (.disableEngine engine.id waitIdle) session).2 later) :
    later.scheduler.Disables engine.runlist ∨
      Scheduler.Resets engine.runlist
        (perform (.disableEngine engine.id waitIdle) session).2.scheduler later.scheduler := by
  have same : session.scheduler.config = config :=
    (reached.intact False fun _ _ _ => False.elim).2
  have whole : perform (.disableEngine engine.id waitIdle) session = _ :=
    call_done (Scheduler.disableEngine engine.id waitIdle) session
  have yields :=
    Scheduler.yields_disableEngine engine.runlist reached.fit engine.id waitIdle
  rcases run : Scheduler.disableEngine engine.id waitIdle session.scheduler with
    ⟨failure | _, after⟩
  · rw [whole, run] at answers
    cases answers
  · obtain ⟨fit, minds, disables⟩ := yields.of_ok run
    have runs : session.scheduler.Runs engine.runlist engine.id :=
      ⟨engine, by rwa [same], rfl, rfl⟩
    have goesOn : Along (Within Scheduler.Fit (Scheduler.Minds engine.runlist)) _ later :=
      since.along fun _ _ => minds_perform
    rw [whole, run] at goesOn ⊢
    refine (goesOn fit).2.disabled ?_ (disables runs)
    rw [minds.config, same]
    exact distinct

/-- An idle engine is disabled, and its runlist stays disabled while a channel becomes active. -/
theorem disabled_through_update : ∃ session later,
    Reached oneEngine poweredUp (fun _ => True) session ∧
      (perform (.disableEngine 0 false) session).1 = .ok .done ∧
      later = performAll (perform (.disableEngine 0 false) session).2
        [.bind 0 { runlist := 0 }, .update 0 (some 0) true false] ∧
      (later.scheduler.Disables 0 ∨
        Scheduler.Resets 0 (perform (.disableEngine 0 false) session).2.scheduler
          later.scheduler) := by
  have outcome : (Scheduler.create oneEngine poweredUp).toOption.map (fun scheduler => decide
      ((perform (.disableEngine 0 false) { scheduler }).1.toOption = some .done)) = some true := by
    decide +kernel
  obtain ⟨scheduler, created, holds⟩ := exists_created outcome
  have answers := eq_ok_of_toOption (decide_eq_true_iff.mp holds)
  have stays : ∀ request ∈ ([.bind 0 { runlist := 0 }, .update 0 (some 0) true false] :
      List Request), ∀ session : Session, ¬session.Lifts 0 request := by
    simp [Lifts]
  have reached : Reached oneEngine poweredUp (fun _ => True) { scheduler } := .created created
  have mem : { id := 0, kind := .graphics, runlist := 0 } ∈ oneEngine.engines := by decide
  exact ⟨_, _, reached, answers, rfl, disabled_until_lifted (by decide) reached mem answers
    (Since.performAll_of_always .start stays)⟩

/-- A disabled engine reports a fault: servicing it resets the engine and enables its runlist. -/
theorem enabled_by_fault : ∃ session later,
    Reached oneEngine poweredUp (fun _ => True) session ∧
      (perform (.disableEngine 0 false) session).1 = .ok .done ∧
      Since (fun session request => ¬session.Lifts 0 request)
        (perform (.disableEngine 0 false) session).2 later ∧
      ¬later.scheduler.Disables 0 := by
  let requests : List Request := [.inject (.fault 0 {}), .service]
  have outcome : (Scheduler.create oneEngine poweredUp).toOption.map (fun scheduler => decide
      ((perform (.disableEngine 0 false) { scheduler }).1.toOption = some .done ∧
        ¬(performAll (perform (.disableEngine 0 false) { scheduler }).2
          requests).scheduler.Disables 0)) = some true := by decide +kernel
  obtain ⟨scheduler, created, holds⟩ := exists_created outcome
  obtain ⟨answers, enabled⟩ := decide_eq_true_iff.mp holds
  have stays : ∀ request ∈ requests, ∀ session : Session, ¬session.Lifts 0 request := by
    simp [requests, Lifts]
  exact ⟨_, _, .created created, eq_ok_of_toOption answers,
    Since.performAll_of_always .start stays, enabled⟩

end Session

end GpuSched
