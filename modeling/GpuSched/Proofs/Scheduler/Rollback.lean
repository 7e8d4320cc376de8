import GpuSched.Proofs.Scheduler.ForcedFaults
import GpuSched.Proofs.Scheduler.Quiescence

/-!
# Disabling every engine or none

Engines are disabled one after the other, and a refusal enables those before it again. Runlists may
be shared, and the recovery inside a refusal clears disable bits of other runlists as well, so what
is left behind cannot be read off the engines that were disabled. But while no reset waits, whatever
ends in a refusal clears bits at most, and only of runlists that have engines: `Enables` says so,
and once all engines before are enabled again no such bit is left. Where no engine was disabled
before, the disable bits are then those of before.
-/
namespace GpuSched

open Operation

namespace Scheduler

variable {exact : Prop} {scheduler base before middle after : Scheduler} {list id : Nat}
  {ids disabled : List Nat}

/-- No reset waits for an engine of any runlist. -/
structure Clear (scheduler : Scheduler) : Prop extends scheduler.Fit where
  settled : ∀ list, ¬scheduler.Owes list

/-- Runlists are enabled at most, and only those that have engines. -/
structure Enables (before after : Scheduler) : Prop where
  config : after.config = before.config
  disables : ∀ list, after.Disables list → before.Disables list
  vacant : ∀ list, (∀ engine ∈ before.config.engines, engine.runlist ≠ list) →
    before.Disables list → after.Disables list

instance : IsPreorder Scheduler Enables where
  refl _ := ⟨rfl, fun _ disables => disables, fun _ _ disables => disables⟩
  trans _ _ _ one two :=
    ⟨two.config.trans one.config, fun list => one.disables list ∘ two.disables list,
      fun list apart disables =>
        two.vacant list (by rwa [one.config]) (one.vacant list apart disables)⟩

/-- What tends owes no reset and leaves the disable bits as they are. -/
theorem Tends.enables (tends : Tends before after) (clear : before.Clear) :
    after.Clear ∧ Enables before after := by
  have same : ∀ list, after.Disables list ↔ before.Disables list := by
    intro list
    unfold Disables
    rw [tends.hardware.disabled]
  refine ⟨⟨clear.toFit.same tends.config tends.listed, fun list => ?_⟩, tends.config,
    fun list => (same list).mp, fun list _ => (same list).mpr⟩
  rw [owes_iff tends.config tends.deferred]
  exact clear.settled list

/-- While no reset waits, forced faults enable runlists at most. -/
theorem enables_handleFaults (fault : ForcedFault) :
    Respects (Within Clear Enables) (handleFaults (some fault)) := by
  intro scheduler clear
  obtain ⟨_, after, run, forced⟩ := (yields_forced clear.toFit fault).exists_ok
  have fit := (drives_handleFaults (some fault) scheduler).toStays.fit clear.toFit
  rw [run] at fit ⊢
  refine ⟨⟨fit, fun list owes => clear.settled list ((forced.owes list).mp owes)⟩, forced.config,
    fun list disables => ?_, fun list apart disables => ?_⟩
  · by_cases struck : ∃ engine ∈ scheduler.config.engines,
      engine.faultId ∈ Simulation.setBits fault.faults ∧ engine.runlist = list
    · obtain ⟨engine, mem, faulted, rfl⟩ := struck
      exact absurd ((forced.struck engine mem faulted).mp disables) (clear.settled _)
    · refine (forced.spared list fun engine mem faulted here => ?_).mp disables
      exact struck ⟨engine, mem, faulted, here⟩
  · exact (forced.spared list fun engine mem _ => apart engine mem).mpr disables

/-- While no reset waits, the recovery of what an engine runs enables runlists at most. -/
theorem enables_quiesce (engine : Engine) (waitIdle : Bool) :
    Respects (Within Clear Enables) (quiesce engine waitIdle) := by
  let script : Script (fun _ _ => False) Unit := .quiesce engine waitIdle
  have spelled : script.run = quiesce engine waitIdle := Script.run_quiesce engine waitIdle
  have idling : ∀ before after, Idles before after → Within Clear Enables before after :=
    fun _ _ idles => idles.tends.enables
  have removes : ∀ list id,
      Respects (Within Clear Enables) (updateRunlist list (some id) false false) :=
    fun list id scheduler clear =>
      ((brief_tends list).updateRunlist (some id) false scheduler clear.toFit).2.enables clear
  rw [← spelled]
  exact Script.respects_of_forces idling enables_handleFaults removes (fun _ _ => False.elim)
    (Script.forces_quiesce engine waitIdle)

/-- The runlist of an engine is disabled or enabled while no reset waits. -/
theorem Toggles.clear {engine : Engine} {disabled : Bool}
    (toggles : Toggles engine disabled before after) (clear : before.Clear) : after.Clear := by
  refine ⟨toggles.toStays.fit clear.toFit, fun list => ?_⟩
  rw [owes_iff toggles.config toggles.deferred]
  exact clear.settled list

/-- Once an engine is disabled its runlist is, beside those that were. -/
theorem Toggles.disables_iff {engine : Engine} (disables : Toggles engine true before after)
    (list : Nat) : after.Disables list ↔ before.Disables list ∨ engine.runlist = list := by
  by_cases own : engine.runlist = list
  · subst own
    exact ⟨fun _ => .inr rfl, fun _ => disables.own.mpr rfl⟩
  · rw [disables.others list (Ne.symm own)]
    exact (or_iff_left own).symm

/-- Once an engine is enabled its runlist is not disabled, and the others are as they were. -/
theorem Toggles.enables_iff {engine : Engine} (enables : Toggles engine false before after)
    (list : Nat) : after.Disables list ↔ before.Disables list ∧ engine.runlist ≠ list := by
  by_cases own : engine.runlist = list
  · subst own
    simp [enables.own]
  · rw [enables.others list (Ne.symm own)]
    exact (and_iff_left own).symm

/-- An engine is disabled, bits are cleared, and the engine is enabled again: bits are cleared at
most. -/
theorem Toggles.withdrawn {engine : Engine} {disabled stopped : Scheduler}
    (mem : engine ∈ before.config.engines) (disables : Toggles engine true before disabled)
    (stops : Enables disabled stopped) (enables : Toggles engine false stopped after) :
    Enables before after := by
  refine ⟨enables.config.trans (stops.config.trans disables.config), fun list left => ?_,
    fun list apart outside => ?_⟩
  · obtain ⟨earlier, other⟩ := (enables.enables_iff list).mp left
    exact ((disables.disables_iff list).mp (stops.disables list earlier)).resolve_right other
  · refine (enables.enables_iff list).mpr ⟨stops.vacant list ?_ ?_, apart engine mem⟩
    · rwa [disables.config]
    · exact (disables.disables_iff list).mpr (.inl outside)

/-- Disable the runlist of an engine and quiet the engine; what does not become quiet is enabled
again. -/
def closeEngine (engine : Engine) (waitIdle : Bool) : Operation Scheduler Unit := do
  setEngineDisabled engine true
  match ← (quiesce engine waitIdle).attempt with
  | .ok () => pure ()
  | .error error =>
      setEngineDisabled engine false
      Operation.refuse error

/-- While no reset waits, closing an engine disables its runlist and no other; a refusal enables
runlists at most. -/
theorem yields_closeEngine (clear : scheduler.Clear) {engine : Engine}
    (mem : engine ∈ scheduler.config.engines) (waitIdle : Bool) :
    (closeEngine engine waitIdle).Yields scheduler
      (fun _ after => after.Clear ∧ after.config = scheduler.config ∧
        ∀ list, after.Disables list ↔ scheduler.Disables list ∨ engine.runlist = list)
      fun failure after => ∀ error, failure = .refused error →
        after.Clear ∧ Enables scheduler after := by
  have inRange : engine.runlist < 32 := (clear.engineFits mem).runlist.trans (by decide)
  unfold closeEngine
  rw [yields_bind]
  refine (yields_toggles inRange true).mono ?_ fun _ _ => False.elim
  intro _ disabled disables
  have clearDisabled : disabled.Clear := disables.clear clear
  rw [yields_bind, yields_attempt]
  refine ((respects_iff_yields.mp (enables_quiesce engine waitIdle) disabled).and
    (delivers_quiesce engine waitIdle disabled)).mono ?_ ?_
  · rintro _ quieted ⟨-, quiets⟩
    refine ⟨(quiets.tends.enables clearDisabled).1, quiets.config.trans disables.config,
      fun list => ?_⟩
    rw [← disables.disables_iff]
    unfold Disables
    rw [quiets.disabled]
  · rintro (error | reason) stopped ⟨within, -⟩
    · obtain ⟨clearStopped, stops⟩ := within clearDisabled
      change (setEngineDisabled engine false >>= fun _ => refuse error).Yields stopped _ _
      rw [yields_bind]
      refine (yields_toggles inRange false).mono ?_ fun _ _ => False.elim
      exact fun _ after enables _ _ =>
        ⟨enables.clear clearStopped, disables.withdrawn mem stops enables⟩
    · rintro _ ⟨⟩

/-- While no reset waits, disabling an engine disables its runlist and no other; a refusal enables
runlists at most. -/
theorem yields_disableOne (clear : scheduler.Clear) (id : Nat) (waitIdle : Bool) :
    (disableEngine id waitIdle).Yields scheduler
      (fun _ after => after.Clear ∧ after.config = scheduler.config ∧
        ∀ list, after.Disables list ↔ scheduler.Disables list ∨ scheduler.Runs list id)
      fun failure after => ∀ error, failure = .refused error →
        after.Clear ∧ Enables scheduler after := by
  unfold disableEngine
  rw [yields_bind]
  refine (yields_numbered scheduler id).mono ?_ ?_
  · rintro engine _ ⟨rfl, mem, rfl⟩
    rw [yields_bind]
    refine (yields_statusOf (clear.engineFits mem).id).mono ?_ fun _ _ => False.elim
    rintro status looked ⟨-, idles⟩
    obtain ⟨clearLooked, looks⟩ := idles.tends.enables clear
    split
    · exact fun _ _ => ⟨clearLooked, looks⟩
    · change (closeEngine engine waitIdle).Yields looked _ _
      refine (yields_closeEngine clearLooked (by rwa [idles.config]) waitIdle).mono ?_ ?_
      · rintro _ after ⟨clearAfter, config, bits⟩
        refine ⟨clearAfter, config.trans idles.config, fun list => ?_⟩
        rw [bits, clear.runs_iff mem]
        unfold Disables
        rw [idles.disabled]
      · intro failure after refused error fails
        exact (refused error fails).imp_right (IsTrans.trans _ _ _ looks)
  · rintro failure _ rfl _ _
    exact ⟨clear, Std.Refl.refl _⟩

/-- Enabling an engine, if there is one with the number, enables its runlist and no other. -/
theorem yields_enableOne (fit : scheduler.Fit) (id : Nat) :
    (enableEngine id).disregard.Yields scheduler
      (fun _ after => after.Fit ∧ after.config = scheduler.config ∧
        ∀ list, after.Disables list ↔ scheduler.Disables list ∧ ¬scheduler.Runs list id)
      fun _ _ => False := by
  rw [yields_disregard]
  refine (yields_enableEngine fit id).mono ?_ ?_
  · rintro _ after ⟨engine, mem, rfl, enables⟩
    refine ⟨enables.toStays.fit fit, enables.config, fun list => ?_⟩
    rw [fit.runs_iff mem, enables.enables_iff]
  · rintro _ _ ⟨⟨error, rfl⟩, rfl, absent⟩
    refine ⟨fit, rfl, fun list => (and_iff_left ?_).symm⟩
    rintro ⟨engine, mem, number, -⟩
    exact absent engine mem number

/-- Where the configuration stays, so do the runlists of engines. -/
theorem runs_of_config (config : after.config = before.config) (list id : Nat) :
    after.Runs list id ↔ before.Runs list id := by
  unfold Runs
  rw [config]

/-- Enabling engines enables their runlists and no others. -/
theorem yields_enableEach (fit : scheduler.Fit) (ids : List Nat) :
    (ids.forM fun id => (enableEngine id).disregard).Yields scheduler
      (fun _ after => ∀ list, after.Disables list ↔
        scheduler.Disables list ∧ ∀ id ∈ ids, ¬scheduler.Runs list id)
      fun _ _ => False := by
  refine Yields.imp (yields_forM (fun done after => after.Fit ∧ after.config = scheduler.config ∧
    ∀ list, after.Disables list ↔
      scheduler.Disables list ∧ ∀ id ∈ done, ¬scheduler.Runs list id) ?_ ?_)
    fun _ _ kept => kept.2.2
  · exact ⟨fit, rfl, fun list => by simp⟩
  · rintro done id rest state - ⟨fitState, config, bits⟩
    refine (yields_enableOne fitState id).imp ?_
    rintro _ after ⟨fitAfter, same, enables⟩
    refine ⟨fitAfter, same.trans config, fun list => ?_⟩
    rw [enables, bits, runs_of_config config, and_assoc]
    simp only [List.mem_append, List.mem_singleton, or_imp, forall_and, forall_eq]

/-- Engines of a batch are disabled, on top of what was disabled at its start. -/
structure Batch (base : Scheduler) (ids : List Nat) (scheduler : Scheduler) : Prop
    extends scheduler.Clear where
  config : scheduler.config = base.config
  bits : ∀ list, scheduler.Disables list ↔ base.Disables list ∨ ∃ id ∈ ids, base.Runs list id

/-- One more engine of a batch is disabled. -/
theorem Batch.cons (batch : Batch base ids scheduler) (clear : after.Clear)
    (config : after.config = scheduler.config)
    (bits : ∀ list, after.Disables list ↔ scheduler.Disables list ∨ scheduler.Runs list id) :
    Batch base (id :: ids) after := by
  refine ⟨clear, config.trans batch.config, fun list => ?_⟩
  rw [bits, batch.bits, runs_of_config batch.config, List.exists_mem_cons_iff, or_assoc,
    or_comm (a := base.Runs list id)]

/-- Once the engines of a batch are enabled again after a refusal, the disable bits are those of its
start, where no engine was disabled then. -/
theorem Batch.rollback (batch : Batch base ids scheduler) (enables : Enables scheduler middle)
    (enabled : ∀ engine ∈ base.config.engines, ¬base.Disables engine.runlist)
    (rolls : ∀ list, after.Disables list ↔
      middle.Disables list ∧ ∀ id ∈ ids.reverse, ¬middle.Runs list id) (list : Nat) :
    after.Disables list ↔ base.Disables list := by
  have runs : ∀ id, middle.Runs list id ↔ base.Runs list id :=
    runs_of_config (enables.config.trans batch.config) list
  simp only [rolls, List.mem_reverse, runs]
  constructor
  · rintro ⟨left, apart⟩
    refine ((batch.bits list).mp (enables.disables list left)).resolve_right ?_
    rintro ⟨id, mem, own⟩
    exact apart id mem own
  · intro disables
    have vacant : ∀ engine ∈ base.config.engines, engine.runlist ≠ list := by
      rintro engine mem rfl
      exact enabled engine mem disables
    refine ⟨enables.vacant list (by rwa [batch.config]) ((batch.bits list).mpr (.inl disables)), ?_⟩
    rintro id - ⟨engine, mem, -, here⟩
    exact vacant engine mem here

/-- Disabling the engines of a batch disables their runlists; a refusal disables none. -/
theorem yields_batch (batch : Batch base disabled scheduler)
    (enabled : ∀ engine ∈ base.config.engines, ¬base.Disables engine.runlist) (waitIdle : Bool)
    (ids : List Nat) :
    (disableEngines waitIdle ids disabled).Yields scheduler
      (fun _ after => ∀ list, after.Disables list ↔
        base.Disables list ∨ ∃ id ∈ ids ++ disabled, base.Runs list id)
      fun failure after => ∀ error, failure = .refused error →
        ∀ list, after.Disables list ↔ base.Disables list := by
  induction ids generalizing scheduler disabled with
  | nil => exact batch.bits
  | cons id rest ih =>
    unfold disableEngines
    rw [yields_bind, yields_attempt]
    refine (yields_disableOne batch.toClear id waitIdle).mono ?_ ?_
    · rintro _ middle ⟨clear, config, bits⟩
      refine (ih (batch.cons clear config bits)).imp fun _ after whole list => ?_
      rw [whole]
      simp only [List.mem_append, List.mem_cons, List.cons_append, or_left_comm]
    · rintro (error | reason) middle refused
      · obtain ⟨clear, enables⟩ := refused error rfl
        change ((disabled.reverse.forM fun id => (enableEngine id).disregard) >>=
          fun _ => refuse error).Yields middle _ _
        rw [yields_bind]
        refine (yields_enableEach clear.toFit disabled.reverse).mono ?_ fun _ _ => False.elim
        exact fun _ after rolls _ _ => batch.rollback enables enabled rolls
      · rintro _ ⟨⟩

/-- Every engine is one batch. -/
theorem yields_disableAllEngines {good : Unit → Scheduler → Prop}
    {bad : Failure → Scheduler → Prop} (waitIdle : Bool) :
    (disableAllEngines waitIdle).Yields scheduler good bad ↔
      (disableEngines waitIdle (scheduler.config.engines.map (·.id)) []).Yields scheduler good
        bad := by
  unfold Yields
  rw [run_disableAllEngines]

/-- A batch starts where no reset waits. -/
theorem batch_nil (fit : scheduler.Fit) (settled : scheduler.deferred = []) :
    Batch scheduler [] scheduler := by
  refine ⟨⟨fit, fun list => ?_⟩, rfl, fun list => by simp⟩
  rintro ⟨reset, waits, -⟩
  rw [settled] at waits
  cases waits

/-- Where no engine is disabled and no reset waits, disabling every engine sets the bits of their
runlists; a refusal leaves the disable bits as they were. -/
theorem yields_disableAll (sound : scheduler.Sound exact)
    (enabled : ∀ engine ∈ scheduler.config.engines, ¬scheduler.Disables engine.runlist)
    (settled : scheduler.deferred = []) {lists : UInt32}
    (bits : ∀ list, list ∈ Simulation.setBits lists ↔
      list ∈ scheduler.config.engines.map (·.runlist)) (waitIdle : Bool) :
    (disableAllEngines waitIdle).Yields scheduler
      (fun _ after => after.machine.bus.word Register.schedulerDisable =
        scheduler.machine.bus.word Register.schedulerDisable ||| lists)
      fun failure after => (∃ error, failure = .refused error) ∧
        after.machine.bus.word Register.schedulerDisable =
          scheduler.machine.bus.word Register.schedulerDisable := by
  have batch := yields_batch (batch_nil sound.shaped.fit settled) enabled waitIdle
    (scheduler.config.engines.map (·.id))
  have own : ∀ list, (∃ id ∈ scheduler.config.engines.map (·.id) ++ [], scheduler.Runs list id) ↔
      list ∈ scheduler.config.engines.map (·.runlist) := by
    intro list
    simp only [List.append_nil, List.mem_map, exists_exists_and_eq_and]
    constructor
    · rintro ⟨_, -, engine, mem, -, here⟩
      exact ⟨engine, mem, here⟩
    · rintro ⟨engine, mem, here⟩
      exact ⟨engine, mem, engine, mem, rfl, here⟩
  rw [← yields_disableAllEngines] at batch
  refine ((ceases_disableAllEngines sound waitIdle).and batch).mono ?_ ?_
  · rintro _ after ⟨-, sets⟩
    refine Simulation.eq_of_setBits fun list => ?_
    rw [Simulation.mem_setBits_or, bits, ← own]
    exact sets list
  · rintro failure after ⟨⟨⟨error, rfl⟩, -⟩, same⟩
    exact ⟨⟨error, rfl⟩, Simulation.eq_of_setBits (same error rfl)⟩

end Scheduler

namespace Session

variable {config : Config} {machine : Machine} {usual : Scheduler → Prop} {session : Session}

/-- Along every run, where no engine is disabled and no reset waits, disabling every engine sets the
bits of their runlists; if it is refused, for whatever reason, the disable bits are those of
before. -/
theorem reached_disableAll (reached : Reached config machine usual session)
    (enabled : ∀ engine ∈ config.engines, ¬session.scheduler.Disables engine.runlist)
    (settled : session.scheduler.deferred = []) (waitIdle : Bool) :
    ∃ lists, Scheduler.maskOf (config.engines.map (·.runlist)) = .ok lists ∧
      ((perform (.disableAll waitIdle) session).1 = .ok .done ∧
          (perform (.disableAll waitIdle) session).2.scheduler.machine.bus.word
              Register.schedulerDisable =
            session.scheduler.machine.bus.word Register.schedulerDisable ||| lists ∨
        (∃ error, (perform (.disableAll waitIdle) session).1 = .error (.refused error)) ∧
          (perform (.disableAll waitIdle) session).2.scheduler.machine.bus.word
              Register.schedulerDisable =
            session.scheduler.machine.bus.word Register.schedulerDisable) := by
  obtain ⟨intact, rfl⟩ := reached.intact False fun _ _ _ => False.elim
  have inWord : ∀ list ∈ session.scheduler.config.engines.map (·.runlist), list < 32 := by
    intro list mem
    obtain ⟨engine, isEngine, rfl⟩ := List.mem_map.mp mem
    exact (reached.fit.engineFits isEngine).runlist.trans (by decide)
  obtain ⟨lists, isMask, bits⟩ := Scheduler.maskOf_eq inWord
  refine ⟨lists, isMask, ?_⟩
  have yields := Scheduler.yields_disableAll intact.sound enabled settled bits waitIdle
  have whole : perform (.disableAll waitIdle) session = _ :=
    call_done (Scheduler.disableAllEngines waitIdle) session
  rw [whole]
  rcases run : Scheduler.disableAllEngines waitIdle session.scheduler with ⟨failure | _, after⟩
  · obtain ⟨⟨error, rfl⟩, same⟩ := yields.of_error run
    exact .inr ⟨⟨error, rfl⟩, same⟩
  · exact .inl ⟨rfl, yields.of_ok run⟩

/-- Two engines on one runlist, and a third one on another. -/
def sharedRunlist : Config :=
  { oneEngine with
    engines := [{ id := 0, kind := .graphics, runlist := 0 },
      { id := 1, kind := .copy, runlist := 1 }, { id := 2, kind := .copy, runlist := 0 }]
    poll := { idleTimeout := 20 } }

/-- The last engine runs a channel, and a runlist without engines is disabled from outside. -/
def lastRuns : List Request :=
  [.bind 0 { runlist := 0 }, .inject (.engineStatus 2 (.running (.channel 0))),
    .inject (.word Register.schedulerDisable 0x20)]

/-- The last engine does not become idle: it is reset with the context that it runs, and of the
disable bits only the one is left that was set before. -/
theorem rolled_back_after_timeout : ∃ session,
    Reached sharedRunlist poweredUp (fun _ => True) session ∧
      (perform (.disableAll true) session).1 = .error (.refused (.engineIdleFailed 2)) ∧
      (perform (.disableAll true) session).2.scheduler.machine.bus.hardware.resets = [2] ∧
      session.scheduler.machine.bus.word Register.schedulerDisable = 0x20 ∧
      (perform (.disableAll true) session).2.scheduler.machine.bus.word
        Register.schedulerDisable = 0x20 := by
  have outcome : (Scheduler.create sharedRunlist poweredUp).toOption.map (fun scheduler => decide
      ((perform (.disableAll true) (performAll { scheduler } lastRuns)).1 =
          .error (.refused (.engineIdleFailed 2)) ∧
        (perform (.disableAll true)
          (performAll { scheduler } lastRuns)).2.scheduler.machine.bus.hardware.resets = [2] ∧
        (performAll { scheduler } lastRuns).scheduler.machine.bus.word
          Register.schedulerDisable = 0x20 ∧
        (performAll { scheduler } lastRuns).scheduler.deferred = [] ∧
        ∀ engine ∈ sharedRunlist.engines,
          ¬(performAll { scheduler } lastRuns).scheduler.Disables engine.runlist)) = some true := by
    decide +kernel
  obtain ⟨scheduler, created, holds⟩ := exists_created outcome
  obtain ⟨fails, resets, outside, settled, enabled⟩ := decide_eq_true_iff.mp holds
  have reached : Reached sharedRunlist poweredUp (fun _ => True)
      (performAll { scheduler } lastRuns) :=
    (Reached.created created).performAll fun _ _ => trivial
  obtain ⟨lists, -, ⟨done, -⟩ | ⟨-, same⟩⟩ := reached_disableAll reached enabled settled true
  · rw [fails] at done
    cases done
  · exact ⟨_, reached, fails, resets, outside, same.trans outside⟩

end Session

end GpuSched
