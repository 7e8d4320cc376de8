import GpuSched.Proofs.Scheduler.ForcedFaults
import GpuSched.Proofs.Scheduler.Isolation
import GpuSched.Proofs.Scheduler.Quiescence

/-!
# Recovery of what does not stop

A context is recovered when a client asks for it, and when a preempt or an engine does not end in
time. `Expels` says what recovery does with the engines and with the channels: just some engines are
reset, and the channels of the context that are in use, and no others, are faulted for a reason and
stopped. The engines are those whose status words blame the context under its own name: an engine
that blames a channel for which its group is recovered is spared. A preempt and a wait that end in
time only ask the hardware.
-/
namespace GpuSched

open Operation

namespace Scheduler

variable {exact : Prop} {scheduler before middle after : Scheduler} {engine : Engine}
  {engines : List Engine} {reason : FaultReason} {touched marked dropped : Set Nat}
  {target : Target}

/-- Where nothing is marked, nobody is accused. -/
theorem Stops.accuses (stops : Stops touched ∅ dropped before after) :
    Accuses reason ∅ before after := by
  refine ⟨fun id mem => absurd mem (Set.notMem_empty id), fun id channel found => .inr ?_⟩
  obtain ⟨held, holds, -⟩ := stops.toSteady.symm.channel_found found
  rw [holds, ← found, stops.spared holds (.inl (Set.notMem_empty id))]

/-- Halted channels are taken off their runlists: no engine is reset and nobody is accused. -/
theorem yields_dismiss (sound : scheduler.Sound exact) {targets : List Target}
    (halted : ∀ id ∈ scheduler.covered targets, scheduler.Halted id) (reason : FaultReason) :
    (removeTargets targets).Yields scheduler
      (fun _ after => Strikes [] ∅ reason scheduler after) fun _ _ => False :=
  ((yields_removeTargets sound halted).also (restarts_removeTargets targets)).imp
    fun _ _ ⟨⟨_, stops⟩, restarts⟩ => ⟨restarts, stops.accuses⟩

/-- Forced faults are serviced, and what they are blamed on is taken off. -/
theorem yields_pursueFaults (sound : scheduler.Sound exact) (fault : ForcedFault) :
    (handleFaults (some fault) >>= removeTargets).Yields scheduler
      (fun _ after => Strikes (scheduler.struckEngines (Simulation.setBits fault.faults))
        (scheduler.blamedChannels (some fault) (Simulation.setBits fault.faults)) fault.reason
        scheduler after)
      fun _ _ => False := by
  rw [yields_bind]
  refine ((yields_stopFaults sound (some fault)).and
    (yields_forced sound.shaped.fit fault)).mono ?_ fun _ _ both => both.1
  rintro targets serviced ⟨⟨soundServiced, -, halted, -⟩, forced⟩
  exact (yields_dismiss soundServiced halted fault.reason).imp
    fun _ _ none => forced.toStrikes.then_none none

/-- A target that no engine runs is marked and taken off. -/
theorem yields_pursueMarked (sound : scheduler.Sound exact) (target : Target)
    (reason : FaultReason) :
    (do
      let any ← markTargetFaulted target reason
      let targets ← pure (if any then [target] else [])
      removeTargets targets : Operation Scheduler Unit).Yields scheduler
      (fun _ after =>
        Strikes [] {id | id ∈ scheduler.targetChannels target} reason scheduler after)
      fun _ _ => False := by
  rw [yields_bind]
  refine ((yields_markTargetFaulted sound target reason).and
    (yields_strikesTarget target reason scheduler)).mono ?_ fun _ _ both => both.1
  rintro any marked ⟨⟨soundMarked, stops, isLive⟩, strikes⟩
  have halted : ∀ id ∈ marked.covered (if any then [target] else []), marked.Halted id := by
    intro id mem
    rw [stops.toSteady.covered_if_live sound isLive] at mem
    exact stops.halted mem.1 mem.2
  rw [yields_bind, yields_pure]
  exact (yields_dismiss soundMarked halted reason).imp fun _ _ none => strikes.then_none none

/-- Just some engines are reset, and the channels of a context that are in use, and no others, are
faulted for a reason and stopped. -/
structure Expels (engines : List Engine) (context : Set Nat) (reason : FaultReason)
    (before after : Scheduler) : Prop extends Isolated context before after where
  restarts : Restarts engines before after
  reasons : ∀ (id : Nat) (channel : Channel), before.channels[id]? = some channel →
    channel.state ≠ .free → id ∈ context → after.channels[id]?.map (·.fault) = some (some reason)

/-- A context that is stopped and struck is expelled. -/
theorem Stops.expels {context : Set Nat} (sound : before.Sound exact)
    (soundAfter : after.Sound exact) (stops : Stops touched context context before after)
    (strikes : Strikes engines context reason before after) :
    Expels engines context reason before after := by
  refine ⟨isolated_of_stops sound soundAfter stops (.driven after after.machine),
    strikes.restarts, ?_⟩
  intro id channel found live mem
  obtain ⟨held, holds, core⟩ := stops.toSteady.channel_found found
  have inUse : held.state ≠ .free := fun free => live ((state_eq_free_iff core).mp free)
  rw [holds, Option.map_some, strikes.accuses.marks id mem held holds inUse]

/-- The hardware is asked before a context is expelled. -/
theorem Expels.after_calm {context : Set Nat} (calm : Calm before middle)
    (expels : Expels engines context reason middle after) :
    Expels engines context reason before after := by
  have only := calm.only
  have restarts := calm.restarts.after_none expels.restarts
  unfold OnlyHardware at only
  rw [only] at expels
  exact ⟨⟨expels.faulted, expels.spared, expels.members⟩, restarts, expels.reasons⟩

/-- A target is recovered: the engines that blame it are reset, and its context is expelled. -/
def Recovers (target : Target) (reason : FaultReason) (before after : Scheduler) : Prop :=
  ∃ engines, engines.Perm (before.enginesRunning (before.normalize target)) ∧
    Expels engines (before.contextOf target) reason before after

/-- Where engines can be told apart by their faults, recovery of a target strikes the engines that
blame it and its context. -/
theorem yields_pursue (sound : scheduler.Sound exact)
    (distinct : (scheduler.config.engines.map (·.faultId)).Nodup) (target : Target)
    (reason : FaultReason) :
    (recoverTarget target reason).Yields scheduler
      (fun _ after => ∃ engines,
        engines.Perm (scheduler.enginesRunning (scheduler.normalize target)) ∧
        Strikes engines (scheduler.contextOf target) reason scheduler after)
      fun _ _ => False := by
  rw [recoverTarget_eq, yields_bind, yields_get, yields_bind]
  refine ((yields_enginesOn sound _).also (calm_enginesOn _)).imp ?_
  rintro faults middle ⟨⟨soundMiddle, quiet, bits⟩, calm⟩
  have context : {id | id ∈ middle.targetChannels (scheduler.normalize target)} =
      scheduler.contextOf target := by
    unfold Scheduler.contextOf
    rw [quiet.toSteady.targetChannels]
  have struck : (scheduler.struckEngines (Simulation.setBits faults)).Perm
      (scheduler.enginesRunning (scheduler.normalize target)) :=
    struckEngines_perm sound.shaped.fit (List.nodup_range.filter _)
      (fun engine mem _ => Config.find_fault distinct mem) bits
  refine Yields.imp ?_ fun _ after strikes => ⟨_, struck, calm.strikes.after_none strikes⟩
  unfold stopTarget
  split
  · rename_i none
    rw [none, Simulation.setBits_zero, ← context]
    exact yields_pursueMarked soundMiddle _ reason
  · rename_i some_engine
    have engines : middle.struckEngines = scheduler.struckEngines := by
      unfold struckEngines
      rw [quiet.toSteady.config]
    rw [← engines, ← quiet.toSteady.blamedChannels_of_running some_engine bits reason]
    exact yields_pursueFaults soundMiddle
      { faults, target := some (scheduler.normalize target), reason }

/-- Where engines can be told apart by their faults, a target is recovered as a whole. -/
theorem yields_recovers (sound : scheduler.Sound exact)
    (distinct : (scheduler.config.engines.map (·.faultId)).Nodup) (target : Target)
    (reason : FaultReason) :
    (recoverTarget target reason).Yields scheduler
      (fun _ after => Recovers target reason scheduler after) fun _ _ => False := by
  refine ((yields_recoverTarget sound target reason).and
    (yields_pursue sound distinct target reason)).mono ?_ fun _ _ both => both.1
  rintro _ after ⟨⟨soundAfter, stops⟩, engines, struck, strikes⟩
  exact ⟨engines, struck, stops.expels sound soundAfter strikes⟩

/-- The hardware is asked before a target is recovered. -/
theorem Recovers.after_calm (fit : before.Fit) (calm : Calm before middle)
    (idles : Idles before middle) (recovers : Recovers target reason middle after) :
    Recovers target reason before after := by
  obtain ⟨engines, struck, expels⟩ := recovers
  have normal : middle.normalize target = before.normalize target :=
    normalize_of_berths idles.berths target
  have running : middle.enginesRunning (before.normalize target) =
      before.enginesRunning (before.normalize target) := by
    unfold enginesRunning
    rw [idles.config]
    refine List.filter_congr fun engine mem => ?_
    rw [statusOf_of_reports (fit.engineFits mem).id idles.hardware.reports]
  have context : middle.contextOf target = before.contextOf target := by
    unfold Scheduler.contextOf
    rw [normal, targetChannels_of_groups idles.groups]
  rw [normal, running] at struck
  rw [context] at expels
  exact ⟨engines, struck, expels.after_calm calm⟩

/-- What is recovered with the first engine with its fault is what its status word blames. -/
theorem engineContext_of_first
    (first : scheduler.config.engines.find? (·.faultId = engine.faultId) = some engine) :
    scheduler.engineContext engine = scheduler.runningContext engine := by
  unfold engineContext runningContext blamedOr channelsOf
  rw [first]
  dsimp only
  generalize (scheduler.statusOf engine.id).faulting = blamed
  cases blamed with
  | none => simp
  | some target => simp

/-- Forcing the fault of the first engine with it strikes the engine alone and what its status word
blames. -/
theorem yields_pursueEngine (sound : scheduler.Sound exact)
    (mem : engine ∈ scheduler.config.engines)
    (first : scheduler.config.engines.find? (·.faultId = engine.faultId) = some engine)
    (reason : FaultReason) :
    (do
      let faults ← maskOf [engine.faultId]
      removeTargets (← handleFaults (some {
        faults, target := (scheduler.statusOf engine.id).faulting, reason })) :
      Operation Scheduler Unit).Yields scheduler
      (fun _ after =>
        Strikes [engine] (scheduler.runningContext engine) reason scheduler after)
      fun _ _ => False := by
  have inWord : ∀ faultId ∈ [engine.faultId], faultId < 32 := by
    intro faultId isOwn
    rw [List.mem_singleton.mp isOwn]
    exact (sound.shaped.engineFits mem).faultId
  obtain ⟨faults, masks, bits⟩ := maskOf_eq inWord
  have single : Simulation.setBits faults = [engine.faultId] := by
    refine List.perm_singleton.mp ((List.perm_ext_iff_of_nodup ?_ ?_).mpr bits)
    · exact List.nodup_range.filter _
    · exact List.nodup_singleton _
  have struck : scheduler.struckEngines (Simulation.setBits faults) = [engine] := by
    unfold struckEngines
    rw [single, List.filterMap_cons, first]
    rfl
  rw [yields_bind, masks, yields_lift_ok]
  rw [← engineContext_of_first first, ← blamedChannels_of_engine bits reason, ← struck]
  exact yields_pursueFaults sound
    { faults, target := (scheduler.statusOf engine.id).faulting, reason }

/-- Driving the hardware changes no blame of an engine. -/
theorem Drives.runningContext (fit : before.Fit) (drives : Drives before after)
    (mem : engine ∈ before.config.engines) :
    after.runningContext engine = before.runningContext engine :=
  runningContext_of_same
    (statusOf_of_reports (fit.engineFits mem).id drives.hardware.reports)
    (funext (normalize_of_berths drives.berths)) (funext (targetChannels_of_groups drives.groups))

/-- Recovery of the first engine with its fault strikes it alone and what it runs. -/
theorem yields_strikesEngine (sound : scheduler.Sound exact)
    (mem : engine ∈ scheduler.config.engines)
    (first : scheduler.config.engines.find? (·.faultId = engine.faultId) = some engine)
    (reason : FaultReason) :
    (recoverEngine engine reason).Yields scheduler
      (fun _ after =>
        Strikes [engine] (scheduler.runningContext engine) reason scheduler after)
      fun _ _ => False := by
  have inRange := (sound.shaped.engineFits mem).id
  unfold recoverEngine
  rw [yields_bind]
  refine ((yields_statusOf inRange).also (calm_engineStatus engine.id)).imp ?_
  rintro _ read ⟨⟨rfl, idles⟩, calm⟩
  rw [← statusOf_of_reports inRange idles.hardware.reports,
    ← idles.toDrives.runningContext sound.shaped.fit mem]
  rw [← idles.config] at mem first
  exact (yields_pursueEngine (idles.sound sound) mem first reason).imp
    fun _ _ strikes => calm.strikes.after_none strikes

/-- Recovery of the first engine with its fault resets it alone and expels what it runs. -/
theorem yields_expelsEngine (sound : scheduler.Sound exact)
    (mem : engine ∈ scheduler.config.engines)
    (first : scheduler.config.engines.find? (·.faultId = engine.faultId) = some engine)
    (reason : FaultReason) :
    (recoverEngine engine reason).Yields scheduler
      (fun _ after => Expels [engine] (scheduler.runningContext engine) reason scheduler after)
      fun _ _ => False := by
  refine ((yields_recoverEngine sound mem reason).and
    (yields_strikesEngine sound mem first reason)).mono ?_ fun _ _ both => both.1
  rintro _ after ⟨⟨soundAfter, stops⟩, strikes⟩
  rw [engineContext_of_first first] at stops
  exact stops.expels sound soundAfter strikes

/-- The hardware is waited for: that is calm, and what is reported stays. -/
theorem yields_awaits (sound : scheduler.Sound exact) {timeout : Nat}
    (asked : timeout ∈ scheduler.config.poll.timeouts) {ask : Operation Bus Bool}
    (serves : ∀ bus, Bus.Serves ask bus ∅ fun _ => True) (cycles : Respects (Bus.Cycles []) ask)
    (idles : Respects Bus.Idles ask) :
    (waitFor timeout ask).Yields scheduler
      (fun _ after => Calm scheduler after ∧ Idles scheduler after) fun _ _ => False :=
  (((yields_waitFor sound asked ∅ serves).also (calm_waitFor timeout cycles)).also
    (idles_waitFor timeout idles)).imp fun _ _ ⟨⟨_, calm⟩, idles⟩ => ⟨calm, idles⟩

/-- A preempt that ends in time only asks the hardware; after one that does not, its target is
recovered. -/
theorem yields_preempts (sound : scheduler.Sound exact)
    (distinct : (scheduler.config.engines.map (·.faultId)).Nodup) (target : Target) :
    (preemptTarget target).Yields scheduler (fun _ after => Calm scheduler after)
      fun failure after => failure = .refused (.preemptFailed target) ∧
        Recovers target .idleTimeout scheduler after := by
  have issues : (onBus (Device.issuePreempt target)).Yields scheduler
      (fun _ after => Calm scheduler after ∧ Idles scheduler after) fun _ _ => False :=
    (((yields_drive sound (Set.Subset.refl _) (Bus.serves_write _ _)).also
      (calm_onBus (Device.cycles_issuePreempt target))).also
        (idles_onBus (Device.idles_issuePreempt target))).imp
      fun _ _ ⟨⟨_, calm⟩, idles⟩ => ⟨calm, idles⟩
  unfold preemptTarget
  rw [yields_bind]
  refine issues.mono ?_ fun _ _ => False.elim
  rintro _ issued ⟨calm, idles⟩
  rw [yields_bind, yields_get, yields_bind]
  refine (yields_awaits (idles.sound sound) issued.config.poll.mem_timeouts.2.1 serves_preempted
    (Device.cycles_preemptPending.map not) (Device.idles_preemptPending.map not)).mono ?_
    fun _ _ => False.elim
  rintro done waited ⟨calmWait, idlesWait⟩
  have calmWhole : Calm scheduler waited := IsTrans.trans _ _ _ calm calmWait
  have idlesWhole : Idles scheduler waited := IsTrans.trans _ _ _ idles idlesWait
  cases done with
  | true => exact calmWhole
  | false =>
    change (recoverTarget target .idleTimeout >>= fun _ => refuse _).Yields waited _ _
    rw [yields_bind]
    refine (yields_recovers (idlesWhole.sound sound) (by rwa [idlesWhole.config]) target
      .idleTimeout).mono ?_ fun _ _ => False.elim
    exact fun _ after recovers =>
      ⟨rfl, recovers.after_calm sound.shaped.fit calmWhole idlesWhole⟩

/-- An engine that is idle in time is only asked; one that is not is reset and expels what it
runs. -/
theorem yields_waitsIdle (sound : scheduler.Sound exact)
    (distinct : (scheduler.config.engines.map (·.faultId)).Nodup) (id : Nat) :
    (waitEngineIdle id).Yields scheduler (fun _ after => Calm scheduler after)
      fun failure after => ∀ named, failure = .refused (.engineIdleFailed named) →
        ∃ engine ∈ scheduler.config.engines, engine.id = id ∧ named = id ∧
          Expels [engine] (scheduler.runningContext engine) .idleTimeout scheduler after := by
  unfold waitEngineIdle
  rw [yields_bind]
  refine ((yields_numbered scheduler id).and (yields_engine scheduler id)).mono ?_ ?_
  · rintro engine _ ⟨⟨rfl, mem, rfl⟩, -⟩
    have cycles : Respects (Bus.Cycles []) (engineIdle engine.id) :=
      (Bus.cycles_readSlot (by decide) engine.id).bind fun _ => respects_pure _
    rw [yields_bind, yields_get, yields_bind]
    refine (yields_awaits sound scheduler.config.poll.mem_timeouts.2.2
      (serves_engineIdle (sound.shaped.engineFits mem).id) cycles
      (Script.idles_engineIdle engine.id)).mono ?_ fun _ _ => False.elim
    rintro isIdle waited ⟨calm, idles⟩
    cases isIdle with
    | true => exact calm
    | false =>
      have memWaited : engine ∈ waited.config.engines := by rwa [idles.config]
      have first := Config.find_fault (by rwa [idles.config]) memWaited
      change (recoverEngine engine .idleTimeout >>= fun _ => refuse _).Yields waited _ _
      rw [yields_bind]
      refine (yields_expelsEngine (idles.sound sound) memWaited first .idleTimeout).mono ?_
        fun _ _ => False.elim
      rintro _ after expels named ⟨⟩
      rw [idles.toDrives.runningContext sound.shaped.fit mem] at expels
      exact ⟨engine, mem, rfl, rfl, expels.after_calm calm⟩
  · rintro _ _ ⟨-, rfl, -⟩ named ⟨⟩

/-- Whether a target is a channel in use or a group in use. -/
def present (scheduler : Scheduler) : Target → Bool
  | .channel id => scheduler.channels[id]?.any (·.state ≠ .free)
  | .group id => scheduler.groups[id]?.any (·.inUse)

/-- Preempt a channel or a group that a client names. -/
def preempt : Target → Operation Scheduler Unit
  | .channel id => preemptChannel id
  | .group id => preemptGroup id

/-- Recover a channel or a group that a client names. -/
def recover (target : Target) (reason : FaultReason) : Operation Scheduler Unit :=
  match target with
  | .channel id => recoverChannel id reason
  | .group id => recoverGroup id reason

/-- A request that a client makes of a target: it is refused where the target is not there. -/
def demand (target : Target) (operation : Operation Scheduler Unit) : Operation Scheduler Unit :=
  match target with
  | .channel id => do
    if (← channel id).state = .free then
      Operation.refuse (.invalidChannel id)
    operation
  | .group id => do
    let _ ← group id
    operation

/-- Preempts are made of a target that is there. -/
theorem preempt_eq_demand (target : Target) :
    preempt target = demand target (preemptTarget target) := by
  cases target <;> rfl

/-- Recovery is asked for of a target that is there. -/
theorem recover_eq_demand (target : Target) (reason : FaultReason) :
    recover target reason = demand target (recoverTarget target reason) := by
  cases target <;> rfl

/-- A request is refused where its target is not there; else it is carried out. -/
theorem yields_demand {operation : Operation Scheduler Unit} {good : Scheduler → Prop}
    {bad : Failure → Scheduler → Prop}
    (carries : operation.Yields scheduler (fun _ after => good after) bad) :
    (demand target operation).Yields scheduler (fun _ after => good after)
      fun failure after => bad failure after ∨
        scheduler.present target = false ∧ ∀ named, failure ≠ .refused (.preemptFailed named) := by
  have carried := carries.mono (fun _ _ done => done) (fun failure after fails =>
    (Or.inl fails : bad failure after ∨ scheduler.present target = false ∧
      ∀ named, failure ≠ .refused (.preemptFailed named)))
  cases target with
  | channel id =>
    change (Scheduler.channel id >>= _).Yields scheduler _ _
    rw [yields_bind, yields_channel]
    cases found : scheduler.channels[id]? with
    | none =>
      refine .inr ⟨?_, fun named => nofun⟩
      simp [present, found]
    | some channel =>
      dsimp only
      split
      · rename_i free
        refine .inr ⟨?_, fun named => nofun⟩
        simp [present, found, free]
      · exact carried
  | group id =>
    change (Scheduler.group id >>= _).Yields scheduler _ _
    rw [yields_bind, yields_group]
    cases found : scheduler.groups[id]? with
    | none =>
      refine .inr ⟨?_, fun named => nofun⟩
      simp [present, found]
    | some group =>
      dsimp only
      split
      · exact carried
      · rename_i unused
        refine .inr ⟨?_, fun named => nofun⟩
        simp [present, found, unused]

/-- A preempt that answers only asks the hardware; one that fails in the end has recovered its
target. -/
theorem yields_preempt (sound : scheduler.Sound exact)
    (distinct : (scheduler.config.engines.map (·.faultId)).Nodup) (target : Target) :
    (preempt target).Yields scheduler (fun _ after => Calm scheduler after)
      fun failure after => ∀ named, failure = .refused (.preemptFailed named) →
        named = target ∧ Recovers target .idleTimeout scheduler after := by
  rw [preempt_eq_demand]
  refine (yields_demand (yields_preempts sound distinct target)).mono (fun _ _ calm => calm) ?_
  rintro _ after (⟨rfl, recovers⟩ | ⟨-, other⟩) named fails
  · cases fails
    exact ⟨rfl, recovers⟩
  · exact absurd fails (other named)

/-- A target that is there is recovered, and no other is. -/
theorem yields_recover (sound : scheduler.Sound exact)
    (distinct : (scheduler.config.engines.map (·.faultId)).Nodup) (target : Target)
    (reason : FaultReason) :
    (recover target reason).Yields scheduler
      (fun _ after => Recovers target reason scheduler after)
      fun _ _ => scheduler.present target = false := by
  rw [recover_eq_demand]
  exact (yields_demand (yields_recovers sound distinct target reason)).mono
    (fun _ _ recovers => recovers) fun _ _ fails => fails.elim False.elim And.left

end Scheduler

namespace Session

variable {config : Config} {machine : Machine} {usual : Scheduler → Prop} {session after : Session}
  {target : Target} {reason : FaultReason}

/-- A request that calls an operation of the scheduler answers and fails as the operation does. -/
theorem yields_call {operation : Operation Scheduler Unit} {good : Scheduler → Prop}
    {bad : Failure → Scheduler → Prop}
    (yields : operation.Yields session.scheduler (fun _ changed => good changed) bad) :
    (call (operation *> pure Reply.done)).Yields session
      (fun reply changed => reply = .done ∧ good changed.scheduler)
      fun failure changed => bad failure changed.scheduler := by
  unfold call
  rw [yields_focus, yields_seqRight]
  exact yields.imp fun _ _ holds => ⟨rfl, holds⟩

/-- A preempt that answers only asks the hardware; one that fails in the end has recovered its
target. -/
theorem yields_performPreempt (sound : session.scheduler.Sound False)
    (distinct : (session.scheduler.config.engines.map (·.faultId)).Nodup) (target : Target) :
    (perform (.preempt target)).Yields session
      (fun reply after => reply = .done ∧ Scheduler.Calm session.scheduler after.scheduler)
      fun failure after => ∀ named, failure = .refused (.preemptFailed named) →
        named = target ∧
          Scheduler.Recovers target .idleTimeout session.scheduler after.scheduler := by
  have preempts := yields_call (Scheduler.yields_preempt sound distinct target)
  cases target with
  | channel id => exact preempts
  | group id => exact preempts

/-- A target that is there is recovered, and no other is. -/
theorem yields_performRecover (sound : session.scheduler.Sound False)
    (distinct : (session.scheduler.config.engines.map (·.faultId)).Nodup) (target : Target)
    (reason : FaultReason) :
    (perform (.recover target reason)).Yields session
      (fun reply after => reply = .done ∧
        Scheduler.Recovers target reason session.scheduler after.scheduler)
      fun _ _ => session.scheduler.present target = false := by
  have recovers := yields_call (Scheduler.yields_recover sound distinct target reason)
  cases target with
  | channel id => exact recovers
  | group id => exact recovers

/-- Along every run, where engines can be told apart by their faults, a channel or a group in use
can be recovered, and the engines whose status words blame it, as the group it belongs to if there
is one, are reset and no others. -/
theorem reached_recover (distinct : (config.engines.map (·.faultId)).Nodup)
    (reached : Reached config machine usual session)
    (present : session.scheduler.present target = true) (reason : FaultReason) :
    ∃ after engines, perform (.recover target reason) session = (.ok .done, after) ∧
      engines.Perm (session.scheduler.enginesRunning (session.scheduler.normalize target)) ∧
      Scheduler.Restarts engines session.scheduler after.scheduler := by
  obtain ⟨intact, rfl⟩ := reached.intact False fun _ _ _ => False.elim
  have never : ∀ (_ : Failure) (_ : Session), session.scheduler.present target = false → False :=
    fun _ _ absent => Bool.eq_false_iff.mp absent present
  have answers := (yields_performRecover intact.sound distinct target reason).mono
    (fun _ _ done => done) never
  obtain ⟨_, after, run, rfl, engines, struck, expels⟩ := answers.exists_ok
  exact ⟨after, engines, run, struck, expels.restarts⟩

/-- A channel is in a group, and the engine runs something. -/
def memberRuns (running : Target) : List Request :=
  [.bind 0 { runlist := 0 }, .createGroup 0, .join 0 0,
    .inject (.engineStatus 0 (.running running))]

/-- The engine blames the group of the channel that is recovered, and is reset. -/
theorem reset_of_group_name : ∃ session after,
    Reached oneEngine poweredUp (fun _ => True) session ∧
      perform (.recover (.channel 0) .forced) session = (.ok .done, after) ∧
      Scheduler.Restarts [{ id := 0, kind := .graphics, runlist := 0 }] session.scheduler
        after.scheduler := by
  have outcome : (Scheduler.create oneEngine poweredUp).toOption.map (fun scheduler => decide
      ((performAll { scheduler } (memberRuns (.group 0))).scheduler.present (.channel 0) = true ∧
        (performAll { scheduler } (memberRuns (.group 0))).scheduler.enginesRunning
          ((performAll { scheduler } (memberRuns (.group 0))).scheduler.normalize (.channel 0)) =
            [{ id := 0, kind := .graphics, runlist := 0 }])) = some true := by decide +kernel
  obtain ⟨scheduler, created, holds⟩ := exists_created outcome
  obtain ⟨present, running⟩ := decide_eq_true_iff.mp holds
  have reached : Reached oneEngine poweredUp (fun _ => True)
      (performAll { scheduler } (memberRuns (.group 0))) :=
    (Reached.created created).performAll fun _ _ => trivial
  obtain ⟨after, engines, run, struck, restarts⟩ :=
    reached_recover (by decide) reached present .forced
  rw [running, List.perm_singleton] at struck
  rw [struck] at restarts
  exact ⟨_, after, reached, run, restarts⟩

/-- The engine blames the channel that is recovered, not its group, and is not reset. -/
theorem spared_of_member_name : ∃ session after,
    Reached oneEngine poweredUp (fun _ => True) session ∧
      session.scheduler.present (.channel 0) = true ∧
      (session.scheduler.statusOf 0).faulting.map session.scheduler.normalize =
        some (session.scheduler.normalize (.channel 0)) ∧
      perform (.recover (.channel 0) .forced) session = (.ok .done, after) ∧
      after.scheduler.machine.bus.hardware.resets = [] := by
  have outcome : (Scheduler.create oneEngine poweredUp).toOption.map (fun scheduler => decide
      ((performAll { scheduler } (memberRuns (.channel 0))).scheduler.present (.channel 0) = true ∧
        ((performAll { scheduler } (memberRuns (.channel 0))).scheduler.statusOf 0).faulting.map
            (performAll { scheduler } (memberRuns (.channel 0))).scheduler.normalize =
          some ((performAll { scheduler } (memberRuns (.channel 0))).scheduler.normalize
            (.channel 0)) ∧
        (perform (.recover (.channel 0) .forced)
          (performAll { scheduler } (memberRuns (.channel 0)))).1 = .ok .done ∧
        (perform (.recover (.channel 0) .forced) (performAll { scheduler }
          (memberRuns (.channel 0)))).2.scheduler.machine.bus.hardware.resets = [])) =
      some true := by decide +kernel
  obtain ⟨scheduler, created, holds⟩ := exists_created outcome
  obtain ⟨present, blames, answers, resets⟩ := decide_eq_true_iff.mp holds
  have reached : Reached oneEngine poweredUp (fun _ => True)
      (performAll { scheduler } (memberRuns (.channel 0))) :=
    (Reached.created created).performAll fun _ _ => trivial
  rcases run : perform (.recover (.channel 0) .forced)
    (performAll { scheduler } (memberRuns (.channel 0))) with ⟨result, after⟩
  rw [run] at answers resets
  subst answers
  exact ⟨_, after, reached, present, blames, run, resets⟩

/-- Along every run, where engines can be told apart by their faults: a preempt or a wait for an
idle engine that answers only asks the hardware. A preempt that fails in the end, and a recovery
that answers, leave the channels in use of the context faulted for the reason and stopped, and every
other channel as it was; so does a wait for an idle engine that fails, for the context that the
engine blames, and it resets the engine and no other. -/
theorem reached_escalates (distinct : (config.engines.map (·.faultId)).Nodup)
    (reached : Reached config machine usual session) :
    (∀ target after, perform (.preempt target) session = (.ok .done, after) →
        Scheduler.Calm session.scheduler after.scheduler) ∧
      (∀ target named after,
        perform (.preempt target) session = (.error (.refused (.preemptFailed named)), after) →
          named = target ∧
            Scheduler.Recovers target .idleTimeout session.scheduler after.scheduler) ∧
      (∀ target reason after, perform (.recover target reason) session = (.ok .done, after) →
        Scheduler.Recovers target reason session.scheduler after.scheduler) ∧
      (∀ id after, perform (.waitIdle id) session = (.ok .done, after) →
        Scheduler.Calm session.scheduler after.scheduler) ∧
      ∀ id named after,
        perform (.waitIdle id) session = (.error (.refused (.engineIdleFailed named)), after) →
          ∃ engine ∈ config.engines, engine.id = id ∧ named = id ∧
            Scheduler.Expels [engine] (session.scheduler.runningContext engine) .idleTimeout
              session.scheduler after.scheduler := by
  obtain ⟨intact, rfl⟩ := reached.intact False fun _ _ _ => False.elim
  have sound := intact.sound
  have waits := fun id => yields_call (Scheduler.yields_waitsIdle sound distinct id)
  refine ⟨fun target after answers => ?_, fun target named after fails => ?_,
    fun target reason after answers => ?_, fun id after answers => ?_,
    fun id named after fails => ?_⟩
  · exact ((yields_performPreempt sound distinct target).of_ok answers).2
  · exact (yields_performPreempt sound distinct target).of_error fails named rfl
  · exact ((yields_performRecover sound distinct target reason).of_ok answers).2
  · exact ((waits id).of_ok answers).2
  · exact (waits id).of_error fails named rfl

/-- One graphics engine that is not waited for long. -/
def impatient : Config := { oneEngine with poll := { preemptTimeout := 20, idleTimeout := 20 } }

/-- One channel is in a group and another is not; both are active, and preempts hang. -/
def hangsPreempt : List Request :=
  [.bind 0 { runlist := 0 }, .bind 1 { runlist := 0 }, .createGroup 0, .join 0 0,
    .update 0 (some 0) true false, .update 0 (some 1) true false, .inject (.hangPreempt .forever)]

/-- The preempt of a channel in a group does not end: its group is recovered, and the channel beside
the group stays active. -/
theorem escalated_of_member : ∃ session after,
    Reached impatient poweredUp (fun _ => True) session ∧
      perform (.preempt (.channel 0)) session =
        (.error (.refused (.preemptFailed (.channel 0))), after) ∧
      Scheduler.Recovers (.channel 0) .idleTimeout session.scheduler after.scheduler ∧
      after.scheduler.channels.map (·.state) = #[.faulted, .active] := by
  have outcome : (Scheduler.create impatient poweredUp).toOption.map (fun scheduler => decide
      ((perform (.preempt (.channel 0)) (performAll { scheduler } hangsPreempt)).1 =
          .error (.refused (.preemptFailed (.channel 0))) ∧
        (perform (.preempt (.channel 0))
          (performAll { scheduler } hangsPreempt)).2.scheduler.channels.map (·.state) =
            #[.faulted, .active])) = some true := by decide +kernel
  obtain ⟨scheduler, created, holds⟩ := exists_created outcome
  obtain ⟨fails, states⟩ := decide_eq_true_iff.mp holds
  have reached : Reached impatient poweredUp (fun _ => True)
      (performAll { scheduler } hangsPreempt) :=
    (Reached.created created).performAll fun _ _ => trivial
  rcases run : perform (.preempt (.channel 0)) (performAll { scheduler } hangsPreempt) with
    ⟨result, after⟩
  rw [run] at fails states
  subst fails
  obtain ⟨-, preempts, -⟩ := reached_escalates (by decide) reached
  exact ⟨_, after, reached, run, (preempts _ _ _ run).2, states⟩

end Session

end GpuSched
