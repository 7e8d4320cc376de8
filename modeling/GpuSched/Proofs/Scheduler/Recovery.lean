import GpuSched.Proofs.Scheduler.Updates
import GpuSched.Scheduler.Recovery

/-!
# Recovery

Recovery marks the channels of a context faulted and takes them off their runlists. It does not wait
for the hardware, so it never fails, and no matter what the hardware reports the channels that are
marked are just those that are in no active set afterwards.
-/
namespace GpuSched

open Operation

namespace Operation

/-- Filtering a list by tests with known answers keeps what each test keeps. -/
theorem yields_filterM {σ α : Type} {list : List α} {test : α → Operation σ Bool}
    {bad : Failure → σ → Prop} {state : σ} (answer : α → Bool) (kept : σ → Prop)
    (start : kept state)
    (round : ∀ item ∈ list, ∀ state, kept state →
      (test item).Yields state (fun value changed => value = answer item ∧ kept changed) bad) :
    (list.filterM test).Yields state
      (fun values changed => values = list.filter answer ∧ kept changed) bad := by
  have collect : ∀ (rest found : List α) (state : σ), (∀ item ∈ rest, item ∈ list) → kept state →
      (rest.filterAuxM test found).Yields state (fun values changed =>
        values = (rest.filter answer).reverse ++ found ∧ kept changed) bad := by
    intro rest
    induction rest with
    | nil =>
      intro found state _ holds
      exact ⟨rfl, holds⟩
    | cons item rest ih =>
      intro found state within holds
      rw [List.filterAuxM, yields_bind]
      refine (round item (within item List.mem_cons_self) state holds).imp ?_
      rintro _ changed ⟨rfl, holds⟩
      have rest := fun other mem => within other (List.mem_cons_of_mem _ mem)
      refine (ih _ changed rest holds).imp ?_
      rintro values after ⟨rfl, holds⟩
      refine ⟨?_, holds⟩
      cases keeps : answer item <;> simp [keeps]
  rw [List.filterM, yields_bind]
  refine (collect list [] state (fun _ => id) start).imp ?_
  rintro values after ⟨rfl, holds⟩
  exact ⟨by simp, holds⟩

end Operation

namespace Scheduler

variable {exact : Prop} {scheduler before middle after : Scheduler} {id runlistId : Nat}
  {channel : Channel} {touched : Set Nat}

/-- A halted channel is taken off its runlist, and the rest of the list is handed over. -/
theorem yields_removeChannel (sound : scheduler.Sound exact) (halted : scheduler.Halted id)
    (found : scheduler.channels[id]? = some channel) :
    (updateRunlist channel.runlist (some id) false false).disregard.Yields scheduler
      (fun _ after => after.Sound exact ∧
        Stops Device.recoveryRegisters ∅ {id} scheduler after)
      fun _ _ => False := by
  have unchanged : scheduler.activeOn channel.runlist id = false →
      scheduler.Sound exact ∧ Stops Device.recoveryRegisters ∅ {id} scheduler scheduler :=
    fun off => ⟨sound, stops_off (off_of_own sound found off) _⟩
  rw [yields_disregard]
  unfold updateRunlist
  rw [yields_bind, yields_runlist]
  cases there : scheduler.runlists.find? channel.runlist with
  | none =>
    refine unchanged ?_
    unfold activeOn
    rw [there]
  | some runlist =>
    dsimp only
    rw [yields_bind]
    refine (yields_setActive sound false).mono ?_ ?_
    · rintro changed middle ⟨soundMiddle, outcome⟩
      cases changed with
      | false =>
        obtain ⟨rfl, off⟩ := outcome
        exact unchanged off
      | true =>
        have toggled : Toggled channel.runlist id false scheduler middle := outcome
        have stopped :=
          (toggled.stops sound halted).mono (Set.empty_subset Device.recoveryRegisters)
        have listed := contains_of_find? there
        rw [← toggled.toSteady.listed] at listed
        refine (yields_submitList soundMiddle listed false false).mono ?_ ?_
        · rintro _ after ⟨recovered, quiet⟩
          exact ⟨recovered.sound, stopped.trans_quiet (quiet rfl)⟩
        · rintro failure after ⟨⟨⟩, _⟩
    · rintro failure middle ⟨rfl, ⟨error, rfl⟩, off⟩
      exact unchanged (off rfl)

/-- The halted channels of some targets are taken off their runlists. -/
theorem yields_removeTargets (sound : scheduler.Sound exact) {targets : List Target}
    (halted : ∀ id ∈ scheduler.covered targets, scheduler.Halted id) :
    (removeTargets targets).Yields scheduler
      (fun _ after => after.Sound exact ∧
        Stops Device.recoveryRegisters ∅ (scheduler.covered targets) scheduler after)
      fun _ _ => False := by
  rw [← Set.inter_univ (scheduler.covered targets)]
  unfold removeTargets
  refine yields_forTargets (fun middle id soundMiddle _ haltedMiddle => ?_) sound halted
  have there := haltedMiddle
  obtain ⟨channel, found, _⟩ := there
  unfold channelAt
  rw [yields_bind, yields_bind, yields_get, yields_entry found, Set.inter_univ]
  exact yields_removeChannel soundMiddle haltedMiddle found

/-- Channels that were marked are off once those in use are. -/
theorem Stops.settle {marked : Set Nat} (sound : after.Sound exact)
    (stops : Stops touched marked (marked ∩ before.inUse) before after) :
    Stops touched marked marked before after := by
  refine stops.drop Set.inter_subset_left fun id mem apart list => ?_
  refine off_of_not_inUse sound (fun live => ?_) list
  rw [stops.toSteady.inUse] at live
  exact apart ⟨mem, live⟩

/-- Servicing faults and removing the targets stops the channels that the faults are blamed on. -/
theorem yields_clearFaults (sound : scheduler.Sound exact) (forced : Option ForcedFault) :
    (handleFaults forced >>= removeTargets).Yields scheduler
      (fun _ after => after.Sound exact ∧
        Stops (Device.faultRegisters forced)
          (scheduler.blamedChannels forced (scheduler.faultList forced))
          (scheduler.blamedChannels forced (scheduler.faultList forced)) scheduler after)
      fun _ _ => False := by
  rw [yields_bind]
  refine (yields_stopFaults sound forced).imp ?_
  rintro targets marked ⟨soundMarked, stopsMarked, halted, covered⟩
  refine (yields_removeTargets soundMarked halted).imp ?_
  rintro _ after ⟨soundAfter, stopsAfter⟩
  have both := stopsMarked.trans (stopsAfter.mono (Device.recoveryRegisters_subset forced))
  rw [Set.union_empty, Set.empty_union, covered] at both
  exact ⟨soundAfter, both.settle soundAfter⟩

/-- A target that counts as a group counts as that group again. -/
theorem normalize_normalize (scheduler : Scheduler) (target : Target) :
    scheduler.normalize (scheduler.normalize target) = scheduler.normalize target := by
  cases target with
  | group id => rfl
  | channel id =>
    unfold normalize
    dsimp only
    cases found : scheduler.channels[id]? with
    | none => simp [found]
    | some channel =>
      cases grouped : channel.group with
      | none => simp [found, Channel.faultTarget, grouped]
      | some group => simp [Channel.faultTarget, grouped]

/-- The engines whose status words blame a target. -/
def enginesRunning (scheduler : Scheduler) (target : Target) : List Engine :=
  scheduler.config.engines.filter fun engine =>
    (scheduler.statusOf engine.id).faulting = some target

/-- The fault bits of the engines that run a target are those of the status words. -/
theorem yields_enginesOn (sound : scheduler.Sound exact) (target : Target) :
    (enginesOn target).Yields scheduler
      (fun faults after => after.Sound exact ∧
        Stops Device.recoveryRegisters ∅ ∅ scheduler after ∧
        ∀ faultId, faultId ∈ Simulation.setBits faults ↔
          ∃ engine ∈ scheduler.enginesRunning target, engine.faultId = faultId)
      fun _ _ => False := by
  have reads : ∀ engine ∈ scheduler.config.engines, ∀ state : Scheduler,
      state.Sound exact ∧ Stops Device.recoveryRegisters ∅ ∅ scheduler state →
      (do return decide ((← engineStatus engine.id).faulting = some target) :
        Operation Scheduler Bool).Yields state
        (fun runs after =>
          runs = decide ((scheduler.statusOf engine.id).faulting = some target) ∧
            after.Sound exact ∧ Stops Device.recoveryRegisters ∅ ∅ scheduler after)
        fun _ _ => False := by
    rintro engine mem state ⟨soundState, stops⟩
    have fits := sound.shaped.engineFits mem
    rw [yields_bind]
    refine (yields_engineStatus soundState fits.id Device.recoveryRegisters).imp ?_
    rintro _ read ⟨rfl, soundRead, stopsRead⟩
    rw [statusOf_eq stops.words (fun _ => Device.recoveryRegisters_disjoint) fits.id]
    exact ⟨rfl, soundRead, stops.quiet_trans stopsRead⟩
  have start : scheduler.Sound exact ∧
      Stops Device.recoveryRegisters ∅ ∅ scheduler scheduler := ⟨sound, .refl _ scheduler⟩
  have tests := yields_filterM
    (fun engine : Engine => decide ((scheduler.statusOf engine.id).faulting = some target))
    (fun after => after.Sound exact ∧ Stops Device.recoveryRegisters ∅ ∅ scheduler after)
    start reads
  unfold enginesOn
  rw [yields_bind, yields_get, yields_bind]
  refine tests.imp ?_
  rintro _ after ⟨rfl, soundAfter, stops⟩
  have fits : ∀ faultId ∈ (scheduler.enginesRunning target).map (·.faultId), faultId < 32 := by
    intro faultId mem
    obtain ⟨engine, isOn, rfl⟩ := List.mem_map.mp mem
    exact (sound.shaped.engineFits (List.mem_of_mem_filter isOn)).faultId
  obtain ⟨faults, masks, bits⟩ := maskOf_eq fits
  unfold enginesRunning at masks
  rw [masks, yields_lift_ok]
  exact ⟨soundAfter, stops, fun faultId => (bits faultId).trans List.mem_map⟩

/-- What is left of recovering a target once its engines are known. -/
def stopTarget (target : Target) (reason : FaultReason) (faults : UInt32) :
    Operation Scheduler Unit :=
  if faults = 0 then do
    let any ← markTargetFaulted target reason
    let targets ← pure (if any then [target] else [])
    removeTargets targets
  else
    handleFaults (some { faults, target := some target, reason }) >>= removeTargets

/-- A target is recovered on the engines that run it. -/
theorem recoverTarget_eq (target : Target) (reason : FaultReason) :
    recoverTarget target reason = (do
      let scheduler ← get
      let faults ← enginesOn (scheduler.normalize target)
      stopTarget (scheduler.normalize target) reason faults) := rfl

/-- The channels that a target covers when it is recovered. -/
def contextOf (scheduler : Scheduler) (target : Target) : Set Nat :=
  {id | id ∈ scheduler.targetChannels (scheduler.normalize target)}

/-- A context stays. -/
theorem Steady.contextOf (steady : Steady before after) (target : Target) :
    after.contextOf target = before.contextOf target := by
  unfold Scheduler.contextOf
  rw [steady.normalize, steady.targetChannels]

/-- A fault that is forced on the engines that run a target is blamed on its context. -/
theorem Steady.blamedChannels_of_running (steady : Steady before after) {target : Target}
    {faults : UInt32} (some_engine : faults ≠ 0)
    (bits : ∀ faultId, faultId ∈ Simulation.setBits faults ↔
      ∃ engine ∈ before.enginesRunning (before.normalize target), engine.faultId = faultId)
    (reason : FaultReason) :
    after.blamedChannels (some { faults, target := some (before.normalize target), reason })
      (Simulation.setBits faults) = before.contextOf target := by
  have names : ∀ faultId ∈ Simulation.setBits faults,
      after.blamed (some { faults, target := some (before.normalize target), reason }) faultId =
        some (before.normalize target) := by
    intro faultId mem
    obtain ⟨engine, runs, same⟩ := (bits faultId).mp mem
    have isEngine := List.mem_of_mem_filter runs
    rw [← steady.config] at isEngine
    unfold blamed blamedOr
    cases found : after.config.engines.find? (·.faultId = faultId) with
    | none => exact absurd same (by simpa using List.find?_eq_none.mp found engine isEngine)
    | some first =>
      change some (after.normalize (before.normalize target)) = _
      rw [steady.normalize, normalize_normalize]
  obtain ⟨faultId, isFault⟩ := Simulation.exists_mem_setBits some_engine
  ext id
  constructor
  · rintro ⟨other, mem, held, blames, covers⟩
    rw [names other mem, Option.some.injEq] at blames
    rw [← blames, steady.targetChannels] at covers
    exact covers
  · intro covers
    refine ⟨faultId, isFault, _, names faultId isFault, ?_⟩
    rwa [steady.targetChannels]

/-- A target that is listed if it has a channel in use covers just its channels in use. -/
theorem Steady.covered_if_live (steady : Steady before after) (sound : before.Sound exact)
    {target : Target} {any : Bool} (isLive : any = true ↔ before.Live target) :
    after.covered (if any then [target] else []) =
      {id | id ∈ before.targetChannels target} ∩ before.inUse := by
  rw [steady.covered]
  ext id
  cases any with
  | true =>
    have live := isLive.mp rfl
    simp only [if_pos, Scheduler.covered, Set.mem_ofPred_eq, List.mem_singleton, exists_eq_left,
      Set.mem_inter_iff]
    exact ⟨fun covers => ⟨covers, inUse_of_live sound live covers⟩, And.left⟩
  | false =>
    constructor
    · rintro ⟨_, ⟨⟩, _⟩
    · rintro ⟨covers, live⟩
      exact absurd (isLive.mpr ⟨id, covers, live⟩) (by decide)

/-- A target that no engine runs is marked and removed. -/
theorem yields_markAndRemove (sound : scheduler.Sound exact) (target : Target)
    (reason : FaultReason) :
    (do
      let any ← markTargetFaulted target reason
      let targets ← pure (if any then [target] else [])
      removeTargets targets : Operation Scheduler Unit).Yields scheduler
      (fun _ after => after.Sound exact ∧
        Stops Device.recoveryRegisters {id | id ∈ scheduler.targetChannels target}
          {id | id ∈ scheduler.targetChannels target} scheduler after)
      fun _ _ => False := by
  rw [yields_bind]
  refine (yields_markTargetFaulted sound target reason).imp ?_
  rintro any marked ⟨soundMarked, stopsMarked, isLive⟩
  have covered := stopsMarked.toSteady.covered_if_live sound isLive
  have halted : ∀ id ∈ marked.covered (if any then [target] else []), marked.Halted id := by
    intro id mem
    rw [covered] at mem
    exact stopsMarked.halted mem.1 mem.2
  rw [yields_bind, yields_pure]
  refine (yields_removeTargets soundMarked halted).imp ?_
  rintro _ after ⟨soundAfter, stopsAfter⟩
  have both := (stopsMarked.mono (Set.empty_subset Device.recoveryRegisters)).trans stopsAfter
  rw [Set.union_empty, Set.empty_union, covered] at both
  exact ⟨soundAfter, both.settle soundAfter⟩

/-- Recovery of a target stops its context. -/
theorem yields_recoverTarget (sound : scheduler.Sound exact) (target : Target)
    (reason : FaultReason) :
    (recoverTarget target reason).Yields scheduler
      (fun _ after => after.Sound exact ∧
        Stops Device.recoveryRegisters (scheduler.contextOf target) (scheduler.contextOf target)
          scheduler after)
      fun _ _ => False := by
  rw [recoverTarget_eq, yields_bind, yields_get, yields_bind]
  refine (yields_enginesOn sound _).imp ?_
  rintro faults middle ⟨soundMiddle, quiet, bits⟩
  have context : {id | id ∈ middle.targetChannels (scheduler.normalize target)} =
      scheduler.contextOf target := by
    unfold Scheduler.contextOf
    rw [quiet.toSteady.targetChannels]
  unfold stopTarget
  split
  · refine (yields_markAndRemove soundMiddle _ reason).imp ?_
    rintro _ after ⟨soundAfter, stopsAfter⟩
    rw [context] at stopsAfter
    exact ⟨soundAfter, quiet.quiet_trans stopsAfter⟩
  · rename_i some_engine
    let forced : ForcedFault :=
      { faults, target := some (scheduler.normalize target), reason }
    have blame : middle.blamedChannels (some forced) (middle.faultList (some forced)) =
        scheduler.contextOf target :=
      quiet.toSteady.blamedChannels_of_running some_engine bits reason
    refine (yields_clearFaults soundMiddle (some forced)).imp ?_
    rintro _ after ⟨soundAfter, stopsAfter⟩
    rw [blame, Device.faultRegisters_some] at stopsAfter
    exact ⟨soundAfter, quiet.quiet_trans stopsAfter⟩

/-- The context that recovery of an engine stops: the one that the engine runs, or the one that
the first engine with its fault runs. -/
def engineContext (scheduler : Scheduler) (engine : Engine) : Set Nat :=
  {id | ∃ target, scheduler.blamedOr (scheduler.statusOf engine.id).faulting engine.faultId =
    some target ∧ id ∈ scheduler.targetChannels target}

/-- A fault that is forced on an engine is blamed on the context of the engine. -/
theorem blamedChannels_of_engine {engine : Engine} {faults : UInt32}
    (bits : ∀ faultId, faultId ∈ Simulation.setBits faults ↔ faultId ∈ [engine.faultId])
    (reason : FaultReason) :
    scheduler.blamedChannels
      (some { faults, target := (scheduler.statusOf engine.id).faulting, reason })
      (Simulation.setBits faults) = scheduler.engineContext engine := by
  ext id
  constructor
  · rintro ⟨faultId, isFault, target, blames, covers⟩
    have own : faultId = engine.faultId := List.mem_singleton.mp ((bits faultId).mp isFault)
    rw [own] at blames
    exact ⟨target, blames, covers⟩
  · rintro ⟨target, blames, covers⟩
    exact ⟨engine.faultId, (bits _).mpr (List.mem_singleton.mpr rfl), target, blames, covers⟩

/-- Where tables are steady and reports are spared, the context of an engine stays. -/
theorem engineContext_eq (shaped : before.Shaped) (steady : Steady before after)
    (words : Bus.Spares touched before.machine.bus after.machine.bus)
    (apart : ∀ offset ∈ Device.reportRegisters, offset ∉ touched) {engine : Engine}
    (mem : engine ∈ before.config.engines) :
    after.engineContext engine = before.engineContext engine := by
  unfold engineContext
  rw [statusOf_eq words apart (shaped.engineFits mem).id]
  ext id
  simp only [Set.mem_ofPred_eq, blamedOr_eq shaped steady words apart, steady.targetChannels]

/-- Forcing a fault of an engine stops the context that its status word blames. -/
theorem yields_forceFault (sound : scheduler.Sound exact) {engine : Engine}
    (mem : engine ∈ scheduler.config.engines) (reason : FaultReason) :
    (do
      let faults ← maskOf [engine.faultId]
      removeTargets (← handleFaults (some {
        faults, target := (scheduler.statusOf engine.id).faulting, reason })) :
      Operation Scheduler Unit).Yields scheduler
      (fun _ after => after.Sound exact ∧
        Stops Device.recoveryRegisters (scheduler.engineContext engine)
          (scheduler.engineContext engine) scheduler after)
      fun _ _ => False := by
  have small := (sound.shaped.engineFits mem).faultId
  have fits : ∀ faultId ∈ [engine.faultId], faultId < 32 := by
    intro faultId isOwn
    rw [List.mem_singleton.mp isOwn]
    exact small
  obtain ⟨faults, masks, bits⟩ := maskOf_eq fits
  let forced : ForcedFault :=
    { faults, target := (scheduler.statusOf engine.id).faulting, reason }
  have blame : scheduler.blamedChannels (some forced) (scheduler.faultList (some forced)) =
      scheduler.engineContext engine := blamedChannels_of_engine bits reason
  have cleared := yields_clearFaults sound (some forced)
  rw [blame, Device.faultRegisters_some] at cleared
  rw [yields_bind, masks, yields_lift_ok]
  exact cleared

/-- Forcing a fault of an engine whose status word has been read. -/
theorem yields_forceEngine (sound : scheduler.Sound exact) {read : Scheduler}
    (soundRead : read.Sound exact)
    (stopsRead : Stops Device.recoveryRegisters ∅ ∅ scheduler read) {engine : Engine}
    (mem : engine ∈ scheduler.config.engines) (reason : FaultReason) :
    (do
      let faults ← maskOf [engine.faultId]
      removeTargets (← handleFaults (some {
        faults, target := (scheduler.statusOf engine.id).faulting, reason })) :
      Operation Scheduler Unit).Yields read
      (fun _ after => after.Sound exact ∧
        Stops Device.recoveryRegisters (scheduler.engineContext engine)
          (scheduler.engineContext engine) scheduler after)
      fun _ _ => False := by
  have memRead : engine ∈ read.config.engines := by
    rw [stopsRead.toSteady.config]
    exact mem
  have forces := yields_forceFault soundRead memRead reason
  rw [engineContext_eq sound.shaped stopsRead.toSteady stopsRead.words
      (fun _ => Device.recoveryRegisters_disjoint) mem,
    statusOf_eq stopsRead.words (fun _ => Device.recoveryRegisters_disjoint)
      (sound.shaped.engineFits mem).id] at forces
  refine forces.imp ?_
  rintro _ after ⟨soundAfter, stopsAfter⟩
  exact ⟨soundAfter, stopsRead.quiet_trans stopsAfter⟩

/-- Recovery of an engine stops the context that its status word blames. -/
theorem yields_recoverEngine (sound : scheduler.Sound exact) {engine : Engine}
    (mem : engine ∈ scheduler.config.engines) (reason : FaultReason) :
    (recoverEngine engine reason).Yields scheduler
      (fun _ after => after.Sound exact ∧
        Stops Device.recoveryRegisters (scheduler.engineContext engine)
          (scheduler.engineContext engine) scheduler after)
      fun _ _ => False := by
  unfold recoverEngine
  rw [yields_bind]
  refine (yields_engineStatus sound (sound.shaped.engineFits mem).id
    Device.recoveryRegisters).imp ?_
  rintro _ read ⟨rfl, soundRead, stopsRead⟩
  exact yields_forceEngine sound soundRead stopsRead mem reason

end Scheduler

end GpuSched
