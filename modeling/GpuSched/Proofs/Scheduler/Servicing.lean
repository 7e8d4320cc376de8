import GpuSched.Proofs.Scheduler.Buffers

/-!
# What servicing faults does to engines

While faults are serviced the runlists of their engines are disabled. Each engine with a fault is
attended to: it is pulsed through reset, or its reset is put off until a context is released. At the
end those runlists are enabled for which no reset waits. Resets that waited are run likewise. The
contracts here say this of the disable bits and of the resets that wait; what it does to channels is
told elsewhere.
-/
namespace GpuSched

open Operation

/-- The engines of a configuration that is accepted have different numbers. -/
theorem Config.ids_nodup {config : Config} (accepted : config.fault? = none) :
    (config.engines.map (·.id)).Nodup := by
  have lists : ∀ (engines : List Engine) (seen : List Nat), enginesFault? seen engines = none →
      (engines.map (·.id)).Nodup ∧ ∀ engine ∈ engines, engine.id ∉ seen := by
    intro engines
    induction engines with
    | nil => exact fun _ _ => ⟨List.nodup_nil, by simp⟩
    | cons engine rest ih =>
      intro seen accepted
      unfold enginesFault? at accepted
      split at accepted
      · cases accepted
      · rename_i new
        split at accepted
        · cases accepted
        · obtain ⟨nodup, fresh⟩ := ih _ accepted
          refine ⟨List.nodup_cons.mpr ⟨fun again => ?_, nodup⟩, fun other mem => ?_⟩
          · obtain ⟨other, mem, same⟩ := List.mem_map.mp again
            exact fresh other mem (same ▸ List.mem_cons_self)
          · rcases List.mem_cons.mp mem with rfl | later
            · exact new
            · exact fun earlier => fresh other later (List.mem_cons_of_mem _ earlier)
  unfold fault? at accepted
  split at accepted
  · cases accepted
  · split at accepted
    · cases accepted
    · split at accepted
      · cases accepted
      · exact (lists _ _ accepted).1

/-- An engine that is found by its number is the one that has it. -/
theorem Config.engine_eq {config : Config} (accepted : config.fault? = none) {one two : Engine}
    (first : one ∈ config.engines) (second : two ∈ config.engines) (same : one.id = two.id) :
    one = two :=
  List.inj_on_of_nodup_map (ids_nodup accepted) first second same

namespace Scheduler

variable {scheduler before middle after : Scheduler} {list id : Nat} {target : Target}
  {engine : Engine} {α β : Type}

/-- The engines of a fit scheduler have places in the registers. -/
theorem Fit.engineFits (fit : scheduler.Fit) (mem : engine ∈ scheduler.config.engines) :
    Config.EngineFits engine :=
  (Config.fits_of_fault fit.accepted).2.2 engine mem

/-- The hardware takes no new work of a runlist. -/
def Disables (scheduler : Scheduler) (list : Nat) : Prop :=
  list ∈ Simulation.setBits (scheduler.machine.bus.word Register.schedulerDisable)

/-- The reset of an engine of a runlist waits. -/
def Owes (scheduler : Scheduler) (list : Nat) : Prop :=
  ∃ reset ∈ scheduler.deferred, ∃ engine ∈ scheduler.config.engines,
    engine.id = reset.engine ∧ engine.runlist = list

instance (scheduler : Scheduler) (list : Nat) : Decidable (scheduler.Disables list) :=
  inferInstanceAs (Decidable (list ∈ _))

instance (scheduler : Scheduler) (list : Nat) : Decidable (scheduler.Owes list) :=
  inferInstanceAs (Decidable (∃ reset ∈ scheduler.deferred, ∃ engine ∈ scheduler.config.engines,
    engine.id = reset.engine ∧ engine.runlist = list))

/-- The disable bits of some runlists are set or cleared, and nothing else happens. -/
structure Switched (lists : UInt32) (disabled : Bool) (before after : Scheduler) : Prop
    extends Drives before after where
  deferred : after.deferred = before.deferred
  bits : ∀ list, after.Disables list ↔
    if disabled then before.Disables list ∨ list ∈ Simulation.setBits lists
    else before.Disables list ∧ list ∉ Simulation.setBits lists

/-- Disable bits are set or cleared. -/
theorem yields_switched (runlists : UInt32) (disabled : Bool) (scheduler : Scheduler) :
    (setSchedulerDisabled runlists disabled).Yields scheduler
      (fun _ after => Switched runlists disabled scheduler after) fun _ _ => False := by
  have writes : (setSchedulerDisabled runlists disabled).Yields scheduler
      (fun _ after => after.deferred = scheduler.deferred ∧ ∀ list, after.Disables list ↔
        if disabled then scheduler.Disables list ∨ list ∈ Simulation.setBits runlists
        else scheduler.Disables list ∧ list ∉ Simulation.setBits runlists) fun _ _ => False := by
    unfold setSchedulerDisabled
    split
    · rename_i none
      refine ⟨rfl, fun list => ?_⟩
      rw [none, Simulation.setBits_zero]
      cases disabled <;> simp
    · unfold onBus
      rw [yields_focus]
      refine (Device.yields_setSchedulerDisabled runlists disabled).imp fun _ bus word => ?_
      refine ⟨rfl, fun list => ?_⟩
      change list ∈ Simulation.setBits (bus.word Register.schedulerDisable) ↔ _
      rw [word]
      cases disabled with
      | true => exact Simulation.mem_setBits_or
      | false => exact Simulation.mem_setBits_and_not
  exact (writes.also (drives_setSchedulerDisabled runlists disabled)).imp
    fun _ _ ⟨⟨deferred, bits⟩, drives⟩ => ⟨drives, deferred, bits⟩

/-- What leaves the resets that wait alone leaves it with the same debts. -/
theorem owes_iff (config : after.config = before.config)
    (deferred : after.deferred = before.deferred) : after.Owes list ↔ before.Owes list := by
  unfold Owes
  rw [deferred, config]

/-- The mask of the runlists for which resets wait. -/
theorem deferredRunlists_spec (fit : scheduler.Fit) :
    ∃ held, scheduler.deferredRunlists = .ok held ∧
      ∀ list, list ∈ Simulation.setBits held ↔ scheduler.Owes list := by
  have fits : ∀ runlist ∈ (scheduler.config.engines.filter fun engine =>
      scheduler.deferred.any (·.engine = engine.id)).map (·.runlist), runlist < 32 := by
    intro runlist mem
    obtain ⟨engine, isHeld, rfl⟩ := List.mem_map.mp mem
    exact (fit.engineFits (List.mem_of_mem_filter isHeld)).runlist.trans (by decide)
  obtain ⟨held, holds, bits⟩ := maskOf_eq fits
  refine ⟨held, holds, fun list => (bits list).trans ?_⟩
  simp only [List.mem_map, List.mem_filter, List.any_eq_true, decide_eq_true_iff]
  constructor
  · rintro ⟨engine, ⟨mem, reset, waits, same⟩, here⟩
    exact ⟨reset, waits, engine, mem, same.symm, here⟩
  · rintro ⟨reset, waits, engine, mem, same, here⟩
    exact ⟨engine, ⟨mem, reset, waits, same.symm⟩, here⟩

/-- Some runlists are enabled, but for those for which resets wait. -/
structure Resumed (lists : UInt32) (before after : Scheduler) : Prop
    extends Drives before after where
  deferred : after.deferred = before.deferred
  bits : ∀ list, after.Disables list ↔
    before.Disables list ∧ (list ∈ Simulation.setBits lists → before.Owes list)

/-- Runlists for which no reset waits are enabled. -/
theorem yields_resumed (fit : scheduler.Fit) (runlists : UInt32) :
    (do
      let held ← (← get).deferredRunlists
      setSchedulerDisabled (runlists &&& ~~~held) false : Operation Scheduler Unit).Yields scheduler
      (fun _ after => Resumed runlists scheduler after) fun _ _ => False := by
  obtain ⟨held, holds, bits⟩ := deferredRunlists_spec fit
  rw [yields_bind, yields_get, yields_bind, holds, yields_lift_ok]
  refine (yields_switched (runlists &&& ~~~held) false scheduler).imp fun _ after switched => ?_
  refine ⟨switched.toDrives, switched.deferred, fun list => ?_⟩
  rw [switched.bits, if_neg (by decide), Simulation.mem_setBits_and_not, bits, not_and, not_not]

/-- A channel in use belongs to a context: its release runs the resets that wait for the context. -/
def Owns (scheduler : Scheduler) (id : Nat) (target : Target) : Prop :=
  ∃ channel : Channel, scheduler.channels[id]? = some channel ∧ channel.state ≠ .free ∧
    (target = .channel id ∨ some target = channel.group.map .group)

/-- Who owns a context can be told from the berths. -/
theorem owns_iff : scheduler.Owns id target ↔ ∃ group : Option Nat,
    scheduler.channels[id]?.map Channel.berth = some (false, group) ∧
      (target = .channel id ∨ some target = group.map .group) := by
  unfold Owns
  cases scheduler.channels[id]? with
  | none => simp
  | some channel =>
    unfold Channel.berth
    simp only [Option.some.injEq, Option.map_some, Prod.mk.injEq, decide_eq_false_iff_not]
    constructor
    · rintro ⟨_, rfl, live, own⟩
      exact ⟨_, ⟨live, rfl⟩, own⟩
    · rintro ⟨_, ⟨live, rfl⟩, own⟩
      exact ⟨_, rfl, live, own⟩

/-- The same berths have the same owners. -/
theorem owns_of_berths
    (same : after.channels[id]?.map Channel.berth = before.channels[id]?.map Channel.berth) :
    after.Owns id target ↔ before.Owns id target := by
  rw [owns_iff, owns_iff, same]

/-- The same berths have the same groups. -/
theorem normalize_of_berths (same : ∀ id : Nat,
    after.channels[id]?.map Channel.berth = before.channels[id]?.map Channel.berth)
    (target : Target) : after.normalize target = before.normalize target := by
  cases target with
  | group id => rfl
  | channel id =>
    have places : ∀ scheduler : Scheduler, scheduler.normalize (.channel id) =
        ((scheduler.channels[id]?.map Channel.berth).map fun berth =>
          berth.2.elim (.channel id) .group).getD (.channel id) := by
      intro scheduler
      unfold normalize
      dsimp only
      cases scheduler.channels[id]? with
      | none => rfl
      | some channel =>
        change channel.faultTarget id = channel.group.elim (.channel id) .group
        unfold Channel.faultTarget
        cases channel.group with
        | none => rfl
        | some group => rfl
    rw [places, places, same]

/-- The channel that a fault names owns the context that is blamed. -/
theorem owns_of_named {inst : UInt32} (names : scheduler.faultOwner? inst = some target) :
    ∃ id, scheduler.Owns id (scheduler.normalize target) := by
  unfold faultOwner? channelByInstance? at names
  obtain ⟨id, found, rfl⟩ := Option.map_eq_some_iff.mp names
  obtain ⟨below, live, _⟩ := Array.findIdx?_eq_some_iff_getElem.mp found
  have holds : scheduler.channels[id]? = some scheduler.channels[id] :=
    Array.getElem?_eq_getElem below
  refine ⟨id, _, holds, by simp_all, ?_⟩
  rw [normalize_normalize]
  unfold normalize
  dsimp only
  rw [holds, Option.map_some, Option.getD_some]
  unfold Channel.faultTarget
  cases scheduler.channels[id].group with
  | none => exact .inl rfl
  | some group => exact .inr rfl

/-- The reset of a graphics engine may wait for a context that is debugged: one that a channel in
use belongs to, or one that the status word of the engine names. -/
structure Justifies (scheduler : Scheduler) (engine : Engine) (target : Target) : Prop where
  graphics : engine.kind = .graphics
  attached : target ∈ scheduler.attached
  named : (∃ id, scheduler.Owns id target) ∨ engine.id < 32 ∧
    ((scheduler.statusOf engine.id).faulting.map scheduler.normalize) = some target

/-- Where the same contexts are in use, attached and reported, no other wait is justified. -/
theorem Justifies.earlier (attached : after.attached = before.attached)
    (berths : ∀ id : Nat,
      after.channels[id]?.map Channel.berth = before.channels[id]?.map Channel.berth)
    (reports : Bus.Reports before.machine.bus after.machine.bus)
    (justifies : after.Justifies engine target) : before.Justifies engine target := by
  refine ⟨justifies.graphics, attached ▸ justifies.attached, ?_⟩
  rcases justifies.named with ⟨id, owns⟩ | ⟨inRange, named⟩
  · exact .inl ⟨id, (owns_of_berths (berths id)).mp owns⟩
  · refine .inr ⟨inRange, ?_⟩
    rwa [← statusOf_of_reports inRange reports, ← funext (normalize_of_berths berths)]

/-- While faults of a mask are serviced, resets of engines with such faults may be put off, unless
the faults are forced. -/
structure Serving (mask : UInt32) (forced : Bool) (before after : Scheduler) : Prop
    extends Drives before after where
  disabled : after.machine.bus.word Register.schedulerDisable =
    before.machine.bus.word Register.schedulerDisable
  waits : ∀ reset ∈ before.deferred, reset ∈ after.deferred
  putOff : ∀ reset ∈ after.deferred, reset ∈ before.deferred ∨
    ∃ engine ∈ before.config.engines, engine.id = reset.engine ∧
      engine.faultId ∈ Simulation.setBits mask ∧ forced = false ∧
        before.Justifies engine reset.target

instance (mask : UInt32) (forced : Bool) : IsPreorder Scheduler (Serving mask forced) where
  refl _ := ⟨Std.Refl.refl _, rfl, fun _ mem => mem, fun _ => .inl⟩
  trans before middle after one two := by
    refine ⟨IsTrans.trans _ _ _ one.toDrives two.toDrives, two.disabled.trans one.disabled,
      fun reset mem => two.waits reset (one.waits reset mem), fun reset mem => ?_⟩
    rcases two.putOff reset mem with earlier | ⟨engine, isEngine, number, inMask, real, justifies⟩
    · exact one.putOff reset earlier
    · rw [one.config] at isEngine
      exact .inr ⟨engine, isEngine, number, inMask, real,
        justifies.earlier one.attached one.berths one.hardware.reports⟩

/-- What idles puts no reset off. -/
theorem Idles.serving {mask : UInt32} {forced : Bool} (idles : Idles before after) :
    Serving mask forced before after :=
  ⟨idles.toDrives, idles.disabled, fun _ mem => by rwa [idles.deferred],
    fun _ mem => .inl (by rwa [idles.deferred] at mem)⟩

/-- What idles, at one state. -/
theorem yields_serving {mask : UInt32} {forced : Bool} {operation : Operation Scheduler α}
    (idles : Respects Idles operation) (scheduler : Scheduler) :
    operation.Yields scheduler (fun _ after => Serving mask forced scheduler after)
      fun _ after => Serving mask forced scheduler after :=
  respects_iff_yields.mp (idles.mono fun _ _ => Idles.serving) scheduler

/-- An engine has been pulsed through reset, or its reset waits. -/
def Attended (engine : Engine) (before after : Scheduler) : Prop :=
  Device.Pulses engine.reset before.machine.bus after.machine.bus ∨
    ∃ reset ∈ after.deferred, reset.engine = engine.id

section Faults

variable {mask : UInt32} {faultId : Nat}

/-- What has been attended to stays so. -/
theorem Attended.later {forced : Bool}
    (attended : Attended engine before middle)
    (serving : Serving mask forced middle after) : Attended engine before after :=
  attended.imp (·.later serving.hardware.grows) fun ⟨reset, mem, same⟩ =>
    ⟨reset, serving.waits reset mem, same⟩

/-- What is attended to has been so from earlier on. -/
theorem Attended.earlier {forced : Bool}
    (serving : Serving mask forced before middle)
    (attended : Attended engine middle after) : Attended engine before after :=
  attended.imp_left (·.earlier serving.hardware.grows)

/-- An engine that is reset is pulsed. -/
theorem yields_pulses (engine : Engine) (scheduler : Scheduler) :
    (resetEngine engine).Yields scheduler
      (fun _ after => Device.Pulses engine.reset scheduler.machine.bus after.machine.bus)
      fun _ _ => True := by
  unfold resetEngine onBus
  rw [yields_focus]
  exact Device.yields_resetUnit engine.reset

/-- After a fault an engine is reset, or its reset is put off. -/
theorem yields_attended (mem : engine ∈ scheduler.config.engines)
    (inMask : engine.faultId ∈ Simulation.setBits mask) (fault : MemoryFault) (forced : Bool)
    {named : Option Target} (justifies : ∀ target, named = some target → forced = false →
      engine.kind = .graphics → target ∈ scheduler.attached → scheduler.Justifies engine target) :
    (resetAfterFault engine fault forced named).Yields scheduler
      (fun _ after => Serving mask forced scheduler after ∧ Attended engine scheduler after)
      fun _ after => Serving mask forced scheduler after := by
  unfold resetAfterFault
  rw [yields_bind, yields_get]
  split
  · rename_i target waits
    obtain ⟨isNamed, defers⟩ := Option.filter_eq_some_iff.mp waits
    have justified : forced = false ∧ scheduler.Justifies engine target := by
      unfold defersReset at defers
      simp only [Bool.and_eq_true, Bool.not_eq_true', decide_eq_true_iff] at defers
      exact ⟨defers.1, justifies target isNamed defers.1 defers.2.1.1.1 defers.2.2⟩
    rw [yields_modify]
    have drives := drives_changeDeferred
      (fun scheduler => scheduler.deferred ++ [⟨engine.id, target⟩]) scheduler
    refine ⟨⟨drives, rfl, fun reset => List.mem_append_left _, fun reset waits => ?_⟩,
      .inr ⟨⟨engine.id, target⟩, by simp, rfl⟩⟩
    rcases List.mem_append.mp waits with earlier | last
    · exact .inl earlier
    · rw [List.mem_singleton.mp last]
      exact .inr ⟨engine, mem, rfl, inMask, justified⟩
  · refine ((yields_serving (idles_resetEngine engine) scheduler).and
      (yields_pulses engine scheduler)).mono ?_ fun _ _ => And.left
    exact fun _ after ⟨serving, pulsed⟩ => ⟨serving, .inl pulsed⟩

/-- The engine of a fault has been attended to. -/
def Settled (faultId : Nat) (before after : Scheduler) : Prop :=
  ∀ engine, before.config.engines.find? (·.faultId = faultId) = some engine →
    Attended engine before after

/-- Settling a fault attends to its engine. -/
theorem yields_settled (fit : scheduler.Fit) (inMask : faultId ∈ Simulation.setBits mask)
    (forced : Option ForcedFault) (targets : List Target) (words : FaultWords) :
    (settleFault forced faultId targets words).Yields scheduler
      (fun _ after => Serving mask forced.isSome scheduler after ∧ Settled faultId scheduler after)
      fun _ after => Serving mask forced.isSome scheduler after := by
  unfold settleFault
  rw [yields_bind, yields_get]
  cases found : scheduler.config.engines.find? (·.faultId = faultId) with
  | none =>
    refine ⟨Std.Refl.refl _, fun engine impossible => ?_⟩
    rw [found] at impossible
    cases impossible
  | some engine =>
    have mem := List.mem_of_find?_eq_some found
    have number : engine.faultId = faultId := by simpa using List.find?_some found
    have inRange : engine.id < 32 := (fit.engineFits mem).id
    rw [← number] at inMask
    dsimp only
    rw [yields_bind]
    refine (yields_statusOf inRange).mono ?_ fun _ _ => False.elim
    rintro status looked ⟨rfl, idles⟩
    have looks : Serving mask forced.isSome scheduler looked := idles.serving
    have status : looked.statusOf engine.id = scheduler.statusOf engine.id :=
      statusOf_of_reports inRange idles.hardware.reports
    rw [← status, yields_bind, yields_get, yields_bind]
    rw [← looks.config] at mem
    refine (yields_attended mem inMask _ _ ?justifies).mono ?settles
      fun _ _ => IsTrans.trans _ _ _ looks
    case justifies =>
      intro target blames noForce graphics attached
      rw [Option.isSome_eq_false_iff, Option.isNone_iff_eq_none] at noForce
      subst noForce
      refine ⟨graphics, attached, ?_⟩
      cases names : looked.faultOwner? words.inst with
      | none =>
        rw [names] at blames
        exact .inr ⟨inRange, blames⟩
      | some owner =>
        rw [names] at blames
        cases blames
        exact .inl (owns_of_named names)
    case settles =>
      rintro _ tried ⟨serving, attended⟩
      have soFar : Serving mask forced.isSome scheduler tried := IsTrans.trans _ _ _ looks serving
      have reached : Attended engine scheduler tried := attended.earlier looks
      have settled : ∀ {after}, Serving mask forced.isSome tried after →
          Settled faultId scheduler after := by
        intro after goes other same
        rw [found, Option.some.injEq] at same
        exact same ▸ reached.later goes
      split
      · exact ⟨soFar, settled (Std.Refl.refl _)⟩
      · rw [yields_bind]
        refine (yields_serving (idles_markTargetFaulted _ _) tried).mono ?_
          fun _ _ => IsTrans.trans _ _ _ soFar
        exact fun _ after goes => ⟨IsTrans.trans _ _ _ soFar goes, settled goes⟩

/-- Servicing a fault attends to its engine. -/
theorem yields_attends (fit : scheduler.Fit) (inMask : faultId ∈ Simulation.setBits mask)
    (forced : Option ForcedFault) (targets : List Target) :
    (serviceFault forced faultId targets).Yields scheduler
      (fun _ after => Serving mask forced.isSome scheduler after ∧ Settled faultId scheduler after)
      fun _ after => Serving mask forced.isSome scheduler after := by
  rw [serviceFault_eq]
  cases forced with
  | some fault => exact yields_settled fit inMask (some fault) targets {}
  | none =>
    dsimp only
    rw [yields_bind]
    refine (yields_serving (idles_onBus (Device.idles_faultWords faultId)) scheduler).mono ?_
      fun _ _ => id
    intro words read reads
    refine (yields_settled (reads.toStays.fit fit) inMask none targets words).mono ?_
      fun _ _ => IsTrans.trans _ _ _ reads
    rintro _ after ⟨serving, settled⟩
    refine ⟨IsTrans.trans _ _ _ reads serving, fun engine found => ?_⟩
    rw [← reads.config] at found
    exact (settled engine found).earlier reads

/-- Servicing faults one after the other attends to all of their engines. -/
theorem yields_attendsEach (fit : scheduler.Fit) {faults : List Nat}
    (inMask : ∀ faultId ∈ faults, faultId ∈ Simulation.setBits mask) (forced : Option ForcedFault)
    (targets : List Target) :
    (faults.foldlM (fun targets faultId => serviceFault forced faultId targets) targets).Yields
      scheduler
      (fun _ after => Serving mask forced.isSome scheduler after ∧
        ∀ faultId ∈ faults, Settled faultId scheduler after)
      fun _ after => Serving mask forced.isSome scheduler after := by
  refine yields_foldlM (fun done _ after => Serving mask forced.isSome scheduler after ∧
    ∀ faultId ∈ done, Settled faultId scheduler after) ⟨Std.Refl.refl _, by simp⟩ ?_
  rintro done faultId rest found middle whole ⟨first, settled⟩
  have listed : faultId ∈ Simulation.setBits mask := inMask faultId (by simp [whole])
  refine (yields_attends (first.toStays.fit fit) listed forced found).mono ?_
    fun _ _ => IsTrans.trans _ _ _ first
  rintro _ after ⟨second, own⟩
  refine ⟨IsTrans.trans _ _ _ first second, fun other mem engine looks => ?_⟩
  rcases List.mem_append.mp mem with earlier | last
  · exact (settled other earlier engine looks).later second
  · rw [List.mem_singleton.mp last, ← first.config] at looks
    exact (own engine looks).earlier first

/-- Faults are acknowledged, and the runlists of their engines are enabled. -/
theorem yields_resumedAfterFaults (fit : scheduler.Fit) (forced : Option ForcedFault)
    (runlists : UInt32) (targets : List Target) :
    (resumeAfterFaults forced mask runlists targets).Yields scheduler
      (fun _ after => ∃ acknowledged, Serving mask forced.isSome scheduler acknowledged ∧
        Resumed runlists acknowledged after)
      fun _ after => Serving mask forced.isSome scheduler after := by
  have resumes : ∀ {acknowledged : Scheduler}, Serving mask forced.isSome scheduler acknowledged →
      (do
        let held ← (← get).deferredRunlists
        setSchedulerDisabled (runlists &&& ~~~held) false
        return targets : Operation Scheduler (List Target)).Yields acknowledged
        (fun _ after => ∃ acknowledged, Serving mask forced.isSome scheduler acknowledged ∧
          Resumed runlists acknowledged after)
        fun _ after => Serving mask forced.isSome scheduler after := by
    intro acknowledged serving
    have yields := yields_resumed (serving.toStays.fit fit) runlists
    simp only [yields_bind] at yields ⊢
    refine yields.mono (fun _ _ lists => ?_) fun _ _ => False.elim
    refine lists.mono (fun _ _ switches => ?_) fun _ _ => False.elim
    exact switches.mono (fun _ _ resumed => ⟨_, serving, resumed⟩) fun _ _ => False.elim
  unfold resumeAfterFaults
  split
  · rw [yields_bind]
    refine (yields_serving (idles_onBus (Device.idles_clearFaults mask)) scheduler).mono ?_
      fun _ _ => id
    intro _ cleared clears
    rw [yields_bind]
    refine (yields_serving (idles_onBus Device.idles_resumeAfterFault) cleared).mono ?_
      fun _ _ => IsTrans.trans _ _ _ clears
    exact fun _ _ goes => resumes (IsTrans.trans _ _ _ clears goes)
  · exact resumes (Std.Refl.refl _)

/-- The runlists of the engines with faults of a mask are disabled, and the engines are attended
to. If nothing stops that, the runlists are enabled again for which no reset waits. -/
inductive Serviced (mask : UInt32) (forced : Bool) (before after : Scheduler) : Prop where
  | partly {disabled : Scheduler} {runlists : UInt32}
      (switched : Switched runlists true before disabled)
      (covers : ∀ list, list ∈ Simulation.setBits runlists ↔ ∃ engine ∈ before.config.engines,
        engine.faultId ∈ Simulation.setBits mask ∧ engine.runlist = list)
      (serving : Serving mask forced disabled after)
  | wholly {disabled serviced : Scheduler} {runlists : UInt32}
      (switched : Switched runlists true before disabled)
      (covers : ∀ list, list ∈ Simulation.setBits runlists ↔ ∃ engine ∈ before.config.engines,
        engine.faultId ∈ Simulation.setBits mask ∧ engine.runlist = list)
      (serving : Serving mask forced disabled serviced)
      (settled : ∀ faultId ∈ Simulation.setBits mask, Settled faultId disabled serviced)
      (resumed : Resumed runlists serviced after)

/-- The faults of a mask are serviced, unless there are none. -/
theorem serviced_serviceFaults (fit : scheduler.Fit) (forced : Option ForcedFault) (mask : UInt32) :
    (serviceFaults forced mask scheduler).2 = scheduler ∨
      Serviced mask forced.isSome scheduler (serviceFaults forced mask scheduler).2 := by
  by_cases none : mask = 0
  · left
    unfold serviceFaults
    rw [if_pos none]
    rfl
  · obtain ⟨runlists, run, covers⟩ := run_serviceFaults (fun _ => fit.engineFits) forced none
    rw [run]
    refine .inr (Yields.holds ?_)
    unfold serviceOn
    rw [yields_bind]
    refine (yields_switched runlists true scheduler).mono ?_ fun _ _ => False.elim
    intro _ disabled switched
    have fitDisabled : disabled.Fit := switched.toStays.fit fit
    rw [yields_bind]
    refine (yields_attendsEach fitDisabled (fun _ mem => mem) forced []).mono ?_
      fun _ _ serving => .partly switched covers serving
    rintro targets serviced ⟨serving, settled⟩
    refine (yields_resumedAfterFaults (serving.toStays.fit fitDisabled) forced runlists
      targets).mono ?_ fun _ _ clears =>
        .partly switched covers (IsTrans.trans _ _ _ serving clears)
    rintro _ after ⟨acknowledged, clears, resumed⟩
    exact .wholly switched covers (IsTrans.trans _ _ _ serving clears)
      (fun faultId mem engine found => (settled faultId mem engine found).later clears) resumed

end Faults

/-- The release of a channel in a group runs a reset. -/
def Due (id : Nat) (group : Option Nat) (reset : DeferredReset) : Prop :=
  reset.target = .channel id ∨ some reset.target = group.map .group

/-- Resets that waited are run, and of the runlists of their engines those are enabled for which no
other reset waits. -/
structure Ran (id : Nat) (group : Option Nat) (before after : Scheduler) : Prop
    extends Drives before after where
  left : ∀ reset, reset ∈ after.deferred ↔ reset ∈ before.deferred ∧ ¬Due id group reset
  pulses : ∀ reset ∈ before.deferred, Due id group reset → ∀ engine ∈ before.config.engines,
    engine.id = reset.engine → Device.Pulses engine.reset before.machine.bus after.machine.bus
  bits : ∀ list, after.Disables list ↔ before.Disables list ∧
    ((∃ reset ∈ before.deferred, Due id group reset ∧ ∃ engine ∈ before.config.engines,
      engine.id = reset.engine ∧ engine.runlist = list) → after.Owes list)

/-- Engines are reset one after the other. -/
theorem yields_resetEach (engines : List Engine) :
    (engines.forM resetEngine).Yields scheduler
      (fun _ after => Idles scheduler after ∧ ∀ engine ∈ engines,
        Device.Pulses engine.reset scheduler.machine.bus after.machine.bus)
      fun _ after => Idles scheduler after := by
  refine yields_forM (fun (done : List Engine) after => Idles scheduler after ∧ ∀ engine ∈ done,
    Device.Pulses engine.reset scheduler.machine.bus after.machine.bus)
    ⟨Std.Refl.refl _, by simp⟩ ?_
  rintro done engine rest middle _ ⟨first, pulsed⟩
  have idles := respects_iff_yields.mp (idles_resetEngine engine) middle
  refine ((yields_pulses engine middle).and idles).mono ?_
    fun _ _ both => IsTrans.trans _ _ _ first both.2
  rintro _ after ⟨pulses, second⟩
  refine ⟨IsTrans.trans _ _ _ first second, fun other mem => ?_⟩
  rcases List.mem_append.mp mem with earlier | last
  · exact (pulsed other earlier).later second.hardware.grows
  · rw [List.mem_singleton.mp last]
    exact pulses.earlier first.hardware.grows

/-- Resets that are due are run, if nothing stops that. -/
theorem yields_ran (fit : scheduler.Fit) (id : Nat) (group : Option Nat) :
    (runDeferredResets id group).Yields scheduler (fun _ after => Ran id group scheduler after)
      fun _ after => Idles scheduler after := by
  unfold runDeferredResets
  rw [yields_bind, yields_get]
  dsimp only
  have isDue : ∀ reset, reset ∈ (scheduler.deferred.filter fun reset =>
      reset.target = .channel id || some reset.target = group.map .group) ↔
      reset ∈ scheduler.deferred ∧ Due id group reset := by
    intro reset
    rw [List.mem_filter, Bool.or_eq_true, decide_eq_true_iff, decide_eq_true_iff]
    exact Iff.rfl
  generalize (scheduler.deferred.filter fun reset =>
      reset.target = .channel id || some reset.target = group.map .group) = due at isDue ⊢
  split
  · rename_i noneDue
    have never : ∀ reset ∈ scheduler.deferred, ¬Due id group reset := by
      intro reset waits isNow
      have mem := (isDue reset).mpr ⟨waits, isNow⟩
      rw [List.isEmpty_iff.mp noneDue] at mem
      cases mem
    refine ⟨Std.Refl.refl _, fun reset => ⟨fun waits => ⟨waits, never reset waits⟩, And.left⟩,
      fun reset waits isNow => absurd isNow (never reset waits), fun list => ?_⟩
    exact ⟨fun disables => ⟨disables, fun ⟨reset, waits, isNow, _⟩ =>
      absurd isNow (never reset waits)⟩, And.left⟩
  · have listed : ∀ engine, engine ∈ (due.flatMap fun reset =>
        scheduler.config.engines.filter (·.id = reset.engine)) ↔
        ∃ reset ∈ scheduler.deferred, Due id group reset ∧
          engine ∈ scheduler.config.engines ∧ engine.id = reset.engine := by
      intro engine
      simp only [List.mem_flatMap, List.mem_filter, decide_eq_true_iff, isDue, and_assoc]
    generalize (due.flatMap fun reset =>
      scheduler.config.engines.filter (·.id = reset.engine)) = engines at listed ⊢
    rw [yields_bind]
    refine (yields_resetEach engines).mono ?_ fun _ _ idles => idles
    rintro _ reset ⟨idles, pulsed⟩
    have fits : ∀ runlist ∈ engines.map (·.runlist), runlist < 32 := by
      intro runlist mem
      obtain ⟨engine, isOne, rfl⟩ := List.mem_map.mp mem
      obtain ⟨_, _, _, isEngine, _⟩ := (listed engine).mp isOne
      exact (fit.engineFits isEngine).runlist.trans (by decide)
    obtain ⟨runlists, masks, bits⟩ := maskOf_eq fits
    rw [yields_bind, masks, yields_lift_ok, yields_bind, yields_modify]
    have drives := drives_changeDeferred (fun scheduler =>
      scheduler.deferred.filter (!due.contains ·)) reset
    have whole : Drives scheduler _ := IsTrans.trans _ _ _ idles.toDrives drives
    refine (yields_resumed (whole.toStays.fit fit) runlists).mono ?_ fun _ _ => False.elim
    intro _ after resumed
    refine ⟨IsTrans.trans _ _ _ whole resumed.toDrives, fun other => ?_,
      fun other waits isNow engine isEngine number => ?_, fun list => ?_⟩
    · rw [resumed.deferred]
      change other ∈ reset.deferred.filter (!due.contains ·) ↔ _
      rw [List.mem_filter, idles.deferred, Bool.not_eq_true', List.contains_eq_mem,
        decide_eq_false_iff_not, isDue]
      exact and_congr_right fun waits => not_congr (and_iff_right waits)
    · have isOne := (listed engine).mpr ⟨other, waits, isNow, isEngine, number⟩
      exact (pulsed engine isOne).later resumed.hardware.grows
    · rw [resumed.bits, ← owes_iff resumed.config resumed.deferred]
      have disabled : reset.Disables list ↔ scheduler.Disables list := by
        unfold Disables
        rw [idles.disabled]
      refine and_congr disabled (imp_congr_left ?_)
      rw [bits, List.mem_map]
      constructor
      · rintro ⟨engine, isOne, here⟩
        obtain ⟨other, waits, isNow, isEngine, number⟩ := (listed engine).mp isOne
        exact ⟨other, waits, isNow, engine, isEngine, number, here⟩
      · rintro ⟨other, waits, isNow, engine, isEngine, number, here⟩
        exact ⟨engine, (listed engine).mpr ⟨other, waits, isNow, isEngine, number⟩, here⟩

end Scheduler

end GpuSched
