import GpuSched.Proofs.Scheduler.Gates
import GpuSched.Proofs.Scheduler.Restarts

/-!
# Faults that software forces

A forced fault names engines by their fault bits, a context to blame if one is known, and a reason.
Servicing it resets the first engine with each bit, in the order of the bits, and no other; it marks
the channels in use of the blamed contexts faulted for the reason; and it leaves the runlists of the
engines disabled just where a reset waits for one. It puts no reset off, so what is owed stays.
-/
namespace GpuSched

open Operation

namespace Scheduler

variable {scheduler before middle after : Scheduler} {faultId : Nat} {reason : FaultReason}
  {marked others : Set Nat} {engines more : List Engine}

/-- Channels in use are faulted for a reason, and what is not faulted for it stays as it is. -/
structure Accuses (reason : FaultReason) (marked : Set Nat) (before after : Scheduler) :
    Prop where
  marks : ∀ id ∈ marked, ∀ channel : Channel, after.channels[id]? = some channel →
    channel.state ≠ .free → channel.fault = some reason
  keeps : ∀ (id : Nat) (channel : Channel), after.channels[id]? = some channel →
    channel.fault = some reason ∨ before.channels[id]? = some channel

/-- Where the channels stay as they are, nobody is accused. -/
theorem accuses_of_same (same : after.channels = before.channels) :
    Accuses reason ∅ before after := by
  refine ⟨fun id mem => absurd mem (Set.notMem_empty id), fun id channel found => .inr ?_⟩
  rwa [← same]

/-- Channels are accused and then others. -/
theorem Accuses.trans (one : Accuses reason marked before middle)
    (two : Accuses reason others middle after) : Accuses reason (marked ∪ others) before after := by
  refine ⟨fun id mem channel found live => ?_, fun id channel found => ?_⟩
  · rcases mem with first | second
    · rcases two.keeps id channel found with accused | held
      · exact accused
      · exact one.marks id first channel held live
    · exact two.marks id second channel found live
  · exact (two.keeps id channel found).elim .inl (one.keeps id channel)

/-- A channel is marked faulted. -/
theorem yields_accuses (id : Nat) (reason : FaultReason) (scheduler : Scheduler) :
    (markFaulted id reason).Yields scheduler
      (fun _ after => Accuses reason {id} scheduler after) fun _ _ => False := by
  unfold markFaulted
  rw [yields_bind, yields_get]
  cases found : scheduler.channels[id]? with
  | none =>
    refine ⟨?_, fun _ _ => .inr⟩
    rintro _ rfl channel holds
    rw [found] at holds
    cases holds
  | some channel =>
    dsimp only
    split
    · rename_i free
      refine ⟨?_, fun _ _ => .inr⟩
      rintro _ rfl held holds live
      rw [found, Option.some.injEq] at holds
      exact absurd (holds ▸ free) live
    · unfold changeChannel
      rw [yields_bind, yields_modify, yields_pure]
      refine ⟨?_, fun other held holds => ?_⟩
      · rintro _ rfl held holds _
        dsimp only at holds
        rw [Array.getElem?_modify, if_pos rfl, found, Option.map_some, Option.some.injEq] at holds
        rw [← holds]
      · dsimp only at holds
        rw [Array.getElem?_modify] at holds
        split at holds
        · obtain ⟨earlier, _, rfl⟩ := Option.map_eq_some_iff.mp holds
          exact .inl rfl
        · exact .inr holds

/-- The channels of a target are marked faulted. -/
theorem yields_accusesTarget (target : Target) (reason : FaultReason) (scheduler : Scheduler) :
    (markTargetFaulted target reason).Yields scheduler
      (fun _ after => Accuses reason {id | id ∈ scheduler.targetChannels target} scheduler after)
      fun _ _ => False := by
  unfold markTargetFaulted
  rw [yields_bind, yields_get]
  refine yields_foldlM (fun done _ after => Accuses reason {id | id ∈ done} scheduler after) ?_ ?_
  · refine ⟨fun id mem => ?_, fun _ _ => .inr⟩
    cases mem
  · rintro done id rest any middle _ accused
    rw [yields_bind]
    refine (yields_accuses id reason middle).imp fun _ after one => ?_
    have both := accused.trans one
    have whole : {other | other ∈ done ++ [id]} = {other | other ∈ done} ∪ {id} := by
      ext other
      exact List.mem_append.trans (or_congr_right List.mem_singleton)
    rwa [whole]

/-- Just some engines are reset, and just some channels come to be faulted, for a reason. -/
structure Strikes (engines : List Engine) (marked : Set Nat) (reason : FaultReason)
    (before after : Scheduler) : Prop where
  restarts : Restarts engines before after
  accuses : Accuses reason marked before after

/-- Some are struck and then others. -/
theorem Strikes.trans (first : Strikes engines marked reason before middle)
    (later : Strikes more others reason middle after) :
    Strikes (engines ++ more) (marked ∪ others) reason before after :=
  ⟨first.restarts.trans later.restarts, first.accuses.trans later.accuses⟩

/-- Some are struck after a step that strikes none. -/
theorem Strikes.after_none (first : Strikes [] ∅ reason before middle)
    (later : Strikes engines marked reason middle after) :
    Strikes engines marked reason before after := by
  have whole := first.trans later
  rwa [List.nil_append, Set.empty_union] at whole

/-- None is struck after some were. -/
theorem Strikes.then_none (first : Strikes engines marked reason before middle)
    (later : Strikes [] ∅ reason middle after) : Strikes engines marked reason before after := by
  have whole := first.trans later
  rwa [List.append_nil, Set.union_empty] at whole

/-- Where the hardware and the channels are left alone, none is struck. -/
theorem Strikes.refl (scheduler : Scheduler) : Strikes [] ∅ reason scheduler scheduler :=
  ⟨restarts_of_same rfl, accuses_of_same rfl⟩

/-- What is calm strikes none. -/
theorem Calm.strikes (calm : Calm before after) : Strikes [] ∅ reason before after :=
  ⟨calm.restarts, accuses_of_same calm.only.channels⟩

/-- The channels of a target are marked faulted, and no engine is reset. -/
theorem yields_strikesTarget (target : Target) (reason : FaultReason) (scheduler : Scheduler) :
    (markTargetFaulted target reason).Yields scheduler
      (fun _ after =>
        Strikes [] {id | id ∈ scheduler.targetChannels target} reason scheduler after)
      fun _ _ => False :=
  ((yields_accusesTarget target reason scheduler).also
    (restarts_markTargetFaulted target reason)).imp fun _ _ both => ⟨both.2, both.1⟩

/-- A target covers the same channels where the groups stay. -/
theorem targetChannels_of_groups (same : after.groups = before.groups) (target : Target) :
    after.targetChannels target = before.targetChannels target := by
  unfold targetChannels
  rw [same]

/-- Driving the hardware changes no blame. -/
theorem Drives.blamedOr (fit : before.Fit) (drives : Drives before after)
    (named : Option Target) : after.blamedOr named faultId = before.blamedOr named faultId := by
  unfold Scheduler.blamedOr
  rw [drives.config, funext (normalize_of_berths drives.berths)]
  cases found : before.config.engines.find? (·.faultId = faultId) with
  | none => rfl
  | some engine =>
    have inRange := (fit.engineFits (List.mem_of_find?_eq_some found)).id
    dsimp only
    rw [statusOf_of_reports inRange drives.hardware.reports]

/-- A forced fault is blamed on the same channels after driving the hardware. -/
theorem Drives.blamedChannels (fit : before.Fit) (drives : Drives before after)
    (fault : ForcedFault) (faults : List Nat) :
    after.blamedChannels (some fault) faults = before.blamedChannels (some fault) faults := by
  unfold Scheduler.blamedChannels blamed named
  simp only [drives.blamedOr fit, targetChannels_of_groups drives.groups]

/-- Where nothing is faulted nobody is blamed. -/
theorem blamedChannels_nil (forced : Option ForcedFault) :
    scheduler.blamedChannels forced [] = ∅ := by
  ext id
  simp [blamedChannels]

/-- Faults are blamed one after the other. -/
theorem blamedChannels_append (forced : Option ForcedFault) (faults more : List Nat) :
    scheduler.blamedChannels forced (faults ++ more) =
      scheduler.blamedChannels forced faults ∪ scheduler.blamedChannels forced more := by
  ext id
  simp only [blamedChannels, Set.mem_ofPred_eq, Set.mem_union, List.mem_append, or_and_right,
    exists_or]

/-- The channels of a context, if there is one. -/
def channelsOf (scheduler : Scheduler) : Option Target → Set Nat
  | none => ∅
  | some target => {id | id ∈ scheduler.targetChannels target}

/-- One fault is blamed on the channels of one context. -/
theorem blamedChannels_singleton (forced : Option ForcedFault) (faultId : Nat) :
    scheduler.blamedChannels forced [faultId] =
      scheduler.channelsOf (scheduler.blamed forced faultId) := by
  ext id
  simp only [blamedChannels, List.mem_singleton, exists_eq_left, Set.mem_ofPred_eq]
  cases scheduler.blamed forced faultId with
  | none => simp [channelsOf]
  | some target => simp [channelsOf]

/-- The context that the status word of an engine blames. -/
def runningContext (scheduler : Scheduler) (engine : Engine) : Set Nat :=
  scheduler.channelsOf ((scheduler.statusOf engine.id).faulting.map scheduler.normalize)

/-- What an engine runs is read off its status word, the groups of the channels and their
members. -/
theorem runningContext_of_same {engine : Engine}
    (status : after.statusOf engine.id = before.statusOf engine.id)
    (normal : after.normalize = before.normalize)
    (covers : after.targetChannels = before.targetChannels) :
    after.runningContext engine = before.runningContext engine := by
  unfold runningContext channelsOf
  rw [status, normal, covers]

/-- A fault of the first engine with it is blamed on what its status word blames. -/
theorem blamedOr_of_first {engine : Engine}
    (first : scheduler.config.engines.find? (·.faultId = engine.faultId) = some engine) :
    scheduler.blamedOr none engine.faultId =
      (scheduler.statusOf engine.id).faulting.map scheduler.normalize := by
  unfold blamedOr
  rw [first]
  rfl

/-- A forced fault has its engine reset at once. -/
theorem resetAfterFault_forced (engine : Engine) (fault : MemoryFault) (target : Option Target) :
    resetAfterFault engine fault true target = get >>= fun _ => resetEngine engine := by
  unfold resetAfterFault
  refine congrArg _ (funext fun scheduler => ?_)
  have none : (target.filter fun target =>
      !true && scheduler.defersReset engine fault target) = none := by
    cases target <;> rfl
  rw [none]

/-- Servicing a forced fault idles. -/
theorem idles_serviceForced (fault : ForcedFault) (faultId : Nat) (targets : List Target) :
    Respects Idles (serviceFault (some fault) faultId targets) := by
  rw [serviceFault_eq]
  refine respects_get.bind fun read => ?_
  split
  · exact respects_pure _
  · rename_i engine _
    refine (idles_engineStatus engine.id).bind fun status => respects_get.bind fun read => ?_
    dsimp only
    rw [Option.isSome_some, resetAfterFault_forced]
    refine (respects_get.bind fun _ => idles_resetEngine engine).bind fun _ => ?_
    split
    · exact respects_pure _
    · exact (idles_markTargetFaulted _ _).bind fun _ => respects_pure _

/-- Servicing a forced fault strikes the first engine that has it and what it is blamed on. -/
theorem yields_serviceForced (fit : scheduler.Fit) (fault : ForcedFault) (faultId : Nat)
    (targets : List Target) :
    (serviceFault (some fault) faultId targets).Yields scheduler
      (fun _ after => Strikes (scheduler.config.engines.find? (·.faultId = faultId)).toList
        (scheduler.blamedChannels (some fault) [faultId]) fault.reason scheduler after)
      fun _ _ => False := by
  rw [serviceFault_eq, blamedChannels_singleton]
  unfold settleFault blamed named blamedOr
  rw [yields_bind, yields_get]
  cases found : scheduler.config.engines.find? (·.faultId = faultId) with
  | none => exact .refl scheduler
  | some engine =>
    have fits := fit.engineFits (List.mem_of_find?_eq_some found)
    dsimp only
    rw [yields_bind]
    refine ((yields_statusOf fits.id).also (calm_engineStatus engine.id)).imp ?_
    rintro _ looked ⟨⟨rfl, idles⟩, calm⟩
    rw [yields_bind, yields_get, funext (normalize_of_berths idles.berths), Option.isSome_some,
      resetAfterFault_forced, yields_bind, yields_bind, yields_get]
    refine (yields_restarts fits.reset looked).imp ?_
    rintro _ reset ⟨only, restarts⟩
    have soFar : Strikes [engine] ∅ fault.reason scheduler reset :=
      calm.strikes.after_none ⟨restarts, accuses_of_same only.channels⟩
    generalize (Option.map scheduler.normalize _) = blamed
    cases blamed with
    | none => exact soFar
    | some target =>
      dsimp only
      rw [yields_bind]
      refine (yields_strikesTarget target fault.reason reset).imp fun _ after strikes => ?_
      have whole := soFar.trans strikes
      rwa [targetChannels_of_groups (calm.only.trans only).groups, List.append_nil,
        Set.empty_union] at whole

/-- The engines whose faults are forced, by ascending bit: the first one with each. -/
def struckEngines (scheduler : Scheduler) (faults : List Nat) : List Engine :=
  faults.filterMap fun faultId => scheduler.config.engines.find? (·.faultId = faultId)

/-- One more fault strikes one more engine, if there is one that has it. -/
theorem struckEngines_concat (faults : List Nat) (faultId : Nat) :
    scheduler.struckEngines (faults ++ [faultId]) = scheduler.struckEngines faults ++
      (scheduler.config.engines.find? (·.faultId = faultId)).toList := by
  unfold struckEngines
  rw [List.filterMap_append, List.filterMap_cons, List.filterMap_nil]
  cases scheduler.config.engines.find? (·.faultId = faultId) with
  | none => rfl
  | some engine => rfl

/-- Where each engine of a kind is the first one with its fault, the faults of these engines strike
all of them and no other. -/
theorem struckEngines_perm (fit : scheduler.Fit) {faults : List Nat} (nodup : faults.Nodup)
    {kind : Engine → Bool} (firsts : ∀ engine ∈ scheduler.config.engines, kind engine = true →
      scheduler.config.engines.find? (·.faultId = engine.faultId) = some engine)
    (bits : ∀ faultId, faultId ∈ faults ↔
      ∃ engine ∈ scheduler.config.engines.filter kind, engine.faultId = faultId) :
    (scheduler.struckEngines faults).Perm (scheduler.config.engines.filter kind) := by
  have apart : (scheduler.struckEngines faults).Nodup := by
    refine nodup.filterMap fun one two engine first second => ?_
    have left : engine.faultId = one := by simpa using List.find?_some first
    have right : engine.faultId = two := by simpa using List.find?_some second
    exact left.symm.trans right
  have engines : scheduler.config.engines.Nodup := (Config.ids_nodup fit.accepted).of_map
  refine (List.perm_ext_iff_of_nodup apart (engines.filter kind)).mpr fun engine => ?_
  unfold struckEngines
  rw [List.mem_filterMap]
  constructor
  · rintro ⟨faultId, mem, found⟩
    obtain ⟨other, isOfKind, rfl⟩ := (bits faultId).mp mem
    obtain ⟨isEngine, holds⟩ := List.mem_filter.mp isOfKind
    rw [firsts other isEngine holds, Option.some.injEq] at found
    rwa [← found]
  · intro isOfKind
    obtain ⟨isEngine, holds⟩ := List.mem_filter.mp isOfKind
    exact ⟨engine.faultId, (bits _).mpr ⟨engine, isOfKind, rfl⟩, firsts engine isEngine holds⟩

/-- Forced faults are serviced one after the other. -/
theorem yields_forcedEach (fit : scheduler.Fit) (fault : ForcedFault) (faults : List Nat) :
    (faults.foldlM (fun targets faultId => serviceFault (some fault) faultId targets) []).Yields
      scheduler
      (fun _ after => Idles scheduler after ∧ Strikes (scheduler.struckEngines faults)
        (scheduler.blamedChannels (some fault) faults) fault.reason scheduler after)
      fun _ _ => False := by
  refine yields_foldlM (fun done _ after => Idles scheduler after ∧
    Strikes (scheduler.struckEngines done) (scheduler.blamedChannels (some fault) done)
      fault.reason scheduler after) ?_ ?_
  · refine ⟨Std.Refl.refl _, ?_⟩
    rw [blamedChannels_nil]
    exact .refl scheduler
  · rintro done faultId rest targets middle _ ⟨idles, strikes⟩
    refine ((yields_serviceForced (idles.toStays.fit fit) fault faultId targets).also
      (idles_serviceForced fault faultId targets)).imp ?_
    rintro _ after ⟨more, idlesMore⟩
    rw [idles.config, idles.toDrives.blamedChannels fit] at more
    rw [struckEngines_concat, blamedChannels_append]
    exact ⟨IsTrans.trans _ _ _ idles idlesMore, strikes.trans more⟩

/-- What forced faults do. -/
structure Forced (fault : ForcedFault) (before after : Scheduler) : Prop
    extends Strikes (before.struckEngines (Simulation.setBits fault.faults))
      (before.blamedChannels (some fault) (Simulation.setBits fault.faults)) fault.reason before
      after where
  config : after.config = before.config
  owes : ∀ list, after.Owes list ↔ before.Owes list
  /-- The runlist of an engine with such a fault is enabled, unless a reset waits for it. -/
  struck : ∀ engine ∈ before.config.engines, engine.faultId ∈ Simulation.setBits fault.faults →
    (after.Disables engine.runlist ↔ before.Owes engine.runlist)
  spared : ∀ list, (∀ engine ∈ before.config.engines,
    engine.faultId ∈ Simulation.setBits fault.faults → engine.runlist ≠ list) →
      (after.Disables list ↔ before.Disables list)

/-- Where no fault is forced, nothing is done. -/
theorem forced_of_none {fault : ForcedFault} (none : Simulation.setBits fault.faults = []) :
    Forced fault scheduler scheduler where
  toStrikes := by
    rw [none, blamedChannels_nil]
    exact .refl scheduler
  config := rfl
  owes _ := Iff.rfl
  struck engine _ mem := by
    rw [none] at mem
    cases mem
  spared _ _ := Iff.rfl

/-- Runlists are disabled, and then those are enabled for which no reset waits: they are disabled
just where a reset waits. -/
theorem Switched.disables_resumed {runlists : UInt32} {disabled serviced : Scheduler}
    (switched : Switched runlists true before disabled) (idles : Idles disabled serviced)
    (resumed : Resumed runlists serviced after) (list : Nat) :
    after.Disables list ↔ (before.Disables list ∨ list ∈ Simulation.setBits runlists) ∧
      (list ∈ Simulation.setBits runlists → before.Owes list) := by
  have sets := switched.bits list
  rw [if_pos rfl] at sets
  have still : serviced.Disables list ↔ disabled.Disables list := by
    unfold Disables
    rw [idles.disabled]
  rw [resumed.bits, still, sets, owes_iff (idles.config.trans switched.config)
    (idles.deferred.trans switched.deferred)]

/-- Once forced faults are serviced, runlists are enabled and nothing else happens. -/
theorem yields_resumedForced (fit : scheduler.Fit) (fault : ForcedFault) (mask runlists : UInt32)
    (targets : List Target) :
    (resumeAfterFaults (some fault) mask runlists targets).Yields scheduler
      (fun _ after => Resumed runlists scheduler after ∧ Calm scheduler after)
      fun _ _ => False := by
  have enables : resumeAfterFaults (some fault) mask runlists targets = (do
      let held ← (← get).deferredRunlists
      setSchedulerDisabled (runlists &&& ~~~held) false : Operation Scheduler Unit) >>=
        fun _ => pure targets := by
    simp only [bind_assoc]
    rfl
  have calm : Respects Calm (do
      let held ← (← get).deferredRunlists
      setSchedulerDisabled (runlists &&& ~~~held) false : Operation Scheduler Unit) :=
    respects_get.bind fun _ => (respects_lift _).bind fun _ => calm_setSchedulerDisabled _ _
  rw [enables, yields_bind]
  exact (yields_resumed fit runlists).also calm

/-- Forced faults are serviced while the runlists of the engines that have them are disabled. -/
theorem yields_forcedOn (fit : scheduler.Fit) (fault : ForcedFault) {runlists : UInt32}
    (covers : ∀ list, list ∈ Simulation.setBits runlists ↔ ∃ engine ∈ scheduler.config.engines,
      engine.faultId ∈ Simulation.setBits fault.faults ∧ engine.runlist = list) :
    (serviceOn (some fault) fault.faults runlists).Yields scheduler
      (fun _ after => Forced fault scheduler after) fun _ _ => False := by
  unfold serviceOn
  rw [yields_bind]
  refine ((yields_switched runlists true scheduler).also
    (calm_setSchedulerDisabled runlists true)).imp ?_
  rintro _ disabled ⟨switched, calm⟩
  have fitDisabled := switched.toStays.fit fit
  rw [yields_bind]
  refine (yields_forcedEach fitDisabled fault (Simulation.setBits fault.faults)).imp ?_
  rintro targets serviced ⟨idles, strikes⟩
  refine (yields_resumedForced (idles.toStays.fit fitDisabled) fault fault.faults runlists
    targets).imp ?_
  rintro _ after ⟨resumed, quiet⟩
  have engines : disabled.struckEngines = scheduler.struckEngines := by
    unfold struckEngines
    rw [switched.config]
  rw [engines, switched.toDrives.blamedChannels fit] at strikes
  have config := resumed.config.trans (idles.config.trans switched.config)
  have deferred := resumed.deferred.trans (idles.deferred.trans switched.deferred)
  refine ⟨(calm.strikes.after_none strikes).then_none quiet.strikes, config,
    fun _ => owes_iff config deferred, fun engine mem faulted => ?_, fun list apart => ?_⟩
  · have here := (covers engine.runlist).mpr ⟨engine, mem, faulted, rfl⟩
    rw [switched.disables_resumed idles resumed]
    exact ⟨fun both => both.2 here, fun owes => ⟨.inr here, fun _ => owes⟩⟩
  · have outside : list ∉ Simulation.setBits runlists := by
      intro inside
      obtain ⟨engine, mem, faulted, here⟩ := (covers list).mp inside
      exact apart engine mem faulted here
    rw [switched.disables_resumed idles resumed]
    exact ⟨fun both => both.1.resolve_right outside,
      fun disables => ⟨.inl disables, fun inside => absurd inside outside⟩⟩

/-- Forced faults reset the first engine with each of them, accuse what they are blamed on and
enable the runlists for which no reset waits. -/
theorem yields_forced (fit : scheduler.Fit) (fault : ForcedFault) :
    (handleFaults (some fault)).Yields scheduler (fun _ after => Forced fault scheduler after)
      fun _ _ => False := by
  rw [handleFaults_eq]
  dsimp only
  by_cases none : fault.faults = 0
  · have noBits : Simulation.setBits fault.faults = [] := by
      rw [none, Simulation.setBits_zero]
    unfold serviceFaults
    rw [if_pos none]
    exact forced_of_none noBits
  · obtain ⟨runlists, run, covers⟩ :=
      run_serviceFaults (fun _ => fit.engineFits) (some fault) none
    unfold Yields
    rw [run]
    exact yields_forcedOn fit fault covers

end Scheduler

end GpuSched
