import GpuSched.Proofs.Scheduler.Scripts
import GpuSched.Proofs.Scheduler.Servicing

/-!
# Disabled runlists

A runlist has one disable bit, and three parties set and clear it: a client that quiets an engine,
the service of faults, which disables the runlists of the engines that it resets and enables them
again, and a reset that waits, which is to keep the runlist of its engine disabled. None of them
records who set the bit. The bit of a runlist is cleared by requests that enable its engines, and
after the reset of one of its engines; but whatever the service of faults and the running of resets
clear, they leave the bit of a runlist alone for which a reset still waits. Faults that the
scheduler forces itself put no reset off, so only the service of reported faults comes to owe one.
-/
namespace GpuSched

open Operation

namespace Scheduler

variable {scheduler before middle after : Scheduler} {list id : Nat} {engine : Engine} {α : Type}

/-- A runlist is disabled as long as the reset of one of its engines waits. -/
def Gated (list : Nat) (scheduler : Scheduler) : Prop :=
  scheduler.Owes list → scheduler.Disables list

instance (list : Nat) (scheduler : Scheduler) : Decidable (scheduler.Gated list) :=
  inferInstanceAs (Decidable (_ → _))

/-- At first no reset waits. -/
theorem deferred_of_create {config : Config} {machine : Machine} {clock : Clock}
    (created : create config machine clock = .ok scheduler) : scheduler.deferred = [] := by
  unfold create at created
  split at created
  · cases created
  · cases created
    rfl

/-- An engine of a runlist is pulsed through reset. -/
def Resets (list : Nat) (before after : Scheduler) : Prop :=
  ∃ engine ∈ before.config.engines, engine.runlist = list ∧
    Device.Pulses engine.reset before.machine.bus after.machine.bus

/-- A runlist for which a reset waits stays disabled, and a runlist that is disabled stays so until
one of its engines is reset, where engines can be told apart by their faults. -/
structure Minds (list : Nat) (before after : Scheduler) : Prop where
  config : after.config = before.config
  grows : before.machine.bus.accesses <:+ after.machine.bus.accesses
  gated : before.Gated list → after.Gated list
  disabled : (before.config.engines.map (·.faultId)).Nodup → before.Disables list →
    after.Disables list ∨ Resets list before after

instance (list : Nat) : IsPreorder Scheduler (Minds list) where
  refl _ := ⟨rfl, List.suffix_rfl, fun gated => gated, fun _ => .inl⟩
  trans before middle after one two := by
    refine ⟨two.config.trans one.config, one.grows.trans two.grows, two.gated ∘ one.gated,
      fun distinct disables => ?_⟩
    rcases one.disabled distinct disables with still | ⟨engine, mem, here, pulses⟩
    · have later := two.disabled (by rwa [one.config]) still
      refine later.imp_right fun ⟨engine, mem, here, pulses⟩ => ?_
      rw [one.config] at mem
      exact ⟨engine, mem, here, pulses.earlier one.grows⟩
    · exact .inr ⟨engine, mem, here, pulses.later two.grows⟩

/-- What leaves the disable bits and the resets that wait as they are. -/
theorem minds_of_same (config : after.config = before.config)
    (deferred : after.deferred = before.deferred)
    (grows : before.machine.bus.accesses <:+ after.machine.bus.accesses)
    (disabled : after.machine.bus.word Register.schedulerDisable =
      before.machine.bus.word Register.schedulerDisable) : Minds list before after := by
  have same : after.Disables list ↔ before.Disables list := by
    unfold Disables
    rw [disabled]
  exact ⟨config, grows, fun gated owes => same.mpr (gated ((owes_iff config deferred).mp owes)),
    fun _ disables => .inl (same.mpr disables)⟩

/-- What tends leaves disabled runlists alone. -/
theorem Tends.minds (tends : Tends before after) : Minds list before after :=
  minds_of_same tends.config tends.deferred tends.hardware.grows tends.hardware.disabled

/-- A change of who is bound, grouped and attached leaves disabled runlists alone. -/
theorem Alters.minds (alters : Alters before after) : Minds list before after :=
  minds_of_same alters.config alters.deferred alters.hardware.grows alters.disabled

/-- Enabling runlists leaves gated ones disabled. -/
theorem Resumed.gated {lists : UInt32} (resumed : Resumed lists before after)
    (gated : before.Gated list) : after.Gated list := by
  intro owes
  rw [owes_iff resumed.config resumed.deferred] at owes
  exact (resumed.bits list).mpr ⟨gated owes, fun _ => owes⟩

section Faults

variable {mask : UInt32} {forced : Bool}

/-- Some runlists are disabled and faults of their engines are serviced: nothing is enabled yet. -/
theorem minds_of_serving (fit : before.Fit) {disabled : Scheduler} {lists : UInt32}
    (switched : Switched lists true before disabled) (serving : Serving mask forced disabled after)
    (covers : ∀ list, list ∈ Simulation.setBits lists ↔ ∃ engine ∈ before.config.engines,
      engine.faultId ∈ Simulation.setBits mask ∧ engine.runlist = list) :
    Minds list before after := by
  have stays : disabled.Disables list → after.Disables list := by
    unfold Disables
    rw [serving.disabled]
    exact fun disables => disables
  have sets := switched.bits list
  rw [if_pos rfl] at sets
  have drives : Drives before after := IsTrans.trans _ _ _ switched.toDrives serving.toDrives
  refine ⟨drives.config, drives.hardware.grows, fun gated owes => stays (sets.mpr ?_),
    fun _ disables => .inl (stays (sets.mpr (.inl disables)))⟩
  obtain ⟨reset, waits, engine, mem, number, here⟩ := owes
  rw [drives.config] at mem
  rcases serving.putOff reset waits with earlier | ⟨other, isEngine, sameNumber, inMask, -⟩
  · rw [switched.deferred] at earlier
    exact .inl (gated ⟨reset, earlier, engine, mem, number, here⟩)
  · rw [switched.config] at isEngine
    have own : engine = other :=
      Config.engine_eq fit.accepted mem isEngine (number.trans sameNumber.symm)
    subst own
    exact .inr ((covers list).mpr ⟨engine, mem, inMask, here⟩)

/-- Servicing faults leaves the runlists disabled for which resets wait, and enables only those of
engines that it has reset. -/
theorem Serviced.minds (fit : before.Fit) (serviced : Serviced mask forced before after) :
    Minds list before after := by
  cases serviced with
  | partly switched covers serving => exact minds_of_serving fit switched serving covers
  | @wholly disabled settled lists switched covers serving attends resumed =>
    have minds : Minds list before settled := minds_of_serving fit switched serving covers
    refine ⟨resumed.config.trans minds.config, minds.grows.trans resumed.hardware.grows,
      fun gated => resumed.gated (minds.gated gated), fun distinct disables => ?_⟩
    have bits := switched.bits list
    rw [if_pos rfl] at bits
    have still : settled.Disables list := by
      unfold Disables
      rw [serving.disabled]
      exact bits.mpr (.inl disables)
    by_cases owed : settled.Owes list
    · exact .inl ((resumed.bits list).mpr ⟨still, fun _ => owed⟩)
    · by_cases inMask : list ∈ Simulation.setBits lists
      · obtain ⟨engine, mem, faulted, here⟩ := (covers list).mp inMask
        have found : disabled.config.engines.find? (·.faultId = engine.faultId) = some engine := by
          rw [switched.config]
          exact Config.find_fault distinct mem
        rcases attends _ faulted engine found with pulses | ⟨reset, waits, same⟩
        · exact .inr ⟨engine, mem, here,
            (pulses.earlier switched.hardware.grows).later resumed.hardware.grows⟩
        · have isEngine : engine ∈ settled.config.engines := by
            rw [serving.config, switched.config]
            exact mem
          exact absurd ⟨reset, waits, engine, isEngine, same.symm, here⟩ owed
      · exact .inl ((resumed.bits list).mpr ⟨still, fun disabled => absurd disabled inMask⟩)

end Faults

/-- Servicing the faults of a mask leaves the runlists disabled for which resets wait. -/
theorem minds_serviceFaults (forced : Option ForcedFault) (mask : UInt32) :
    Respects (Within Fit (Minds list)) (serviceFaults forced mask) := by
  intro scheduler fit
  refine ⟨(drives_serviceFaults forced mask scheduler).toStays.fit fit, ?_⟩
  rcases serviced_serviceFaults fit forced mask with same | serviced
  · rw [same]
    exact Std.Refl.refl _
  · exact serviced.minds fit

/-- What idles leaves disabled runlists alone. -/
theorem minds_of_idles {operation : Operation Scheduler α} (idles : Respects Idles operation) :
    Respects (Within Fit (Minds list)) operation :=
  idles.mono fun _ _ idles fit => ⟨idles.toStays.fit fit, idles.tends.minds⟩

/-- Servicing faults leaves the runlists disabled for which resets wait. -/
theorem minds_handleFaults (forced : Option ForcedFault) :
    Respects (Within Fit (Minds list)) (handleFaults forced) := by
  rw [handleFaults_eq]
  cases forced with
  | some fault => exact minds_serviceFaults (some fault) fault.faults
  | none =>
    exact (minds_of_idles (idles_onBus (Bus.idles_read _))).bind fun mask =>
      minds_serviceFaults none mask

/-- Resets that waited are run, and of their runlists those are enabled for which no other reset
waits. -/
theorem Ran.minds {group : Option Nat} (ran : Ran id group before after) :
    Minds list before after := by
  refine ⟨ran.config, ran.hardware.grows, fun gated owes => (ran.bits list).mpr ⟨gated ?_, ?_⟩,
    fun _ disables => ?_⟩
  · obtain ⟨reset, waits, engine, mem, number, here⟩ := owes
    rw [ran.config] at mem
    exact ⟨reset, ((ran.left reset).mp waits).1, engine, mem, number, here⟩
  · exact fun _ => owes
  · by_cases isDue : ∃ reset ∈ before.deferred, Due id group reset ∧
        ∃ engine ∈ before.config.engines, engine.id = reset.engine ∧ engine.runlist = list
    · obtain ⟨reset, waits, isNow, engine, mem, number, here⟩ := isDue
      exact .inr ⟨engine, mem, here, ran.pulses reset waits isNow engine mem number⟩
    · exact .inl ((ran.bits list).mpr ⟨disables, fun due => absurd due isDue⟩)

/-- Running resets that waited leaves the runlists disabled for which resets wait. -/
theorem minds_runDeferredResets (id : Nat) (group : Option Nat) :
    Respects (Within Fit (Minds list)) (runDeferredResets id group) := by
  intro scheduler fit
  refine ⟨(drives_runDeferredResets id group scheduler).toStays.fit fit, Yields.holds ?_⟩
  exact (yields_ran fit id group).mono (fun _ _ ran => ran.minds) fun _ _ idles => idles.tends.minds

/-- No reset that waits is lost, and one that is put off waits for good reason. None is put off
where all faults are forced. -/
structure Defers (forced : Bool) (before after : Scheduler) : Prop where
  config : after.config = before.config
  attached : after.attached = before.attached
  berths : ∀ id : Nat,
    after.channels[id]?.map Channel.berth = before.channels[id]?.map Channel.berth
  reports : Bus.Reports before.machine.bus after.machine.bus
  grows : before.machine.bus.accesses <:+ after.machine.bus.accesses
  waits : ∀ reset ∈ before.deferred, reset ∈ after.deferred
  putOff : ∀ reset ∈ after.deferred, reset ∈ before.deferred ∨ forced = false ∧
    ∃ engine ∈ before.config.engines, engine.id = reset.engine ∧
      before.Justifies engine reset.target

instance (forced : Bool) : IsPreorder Scheduler (Defers forced) where
  refl _ := ⟨rfl, rfl, fun _ => rfl, fun _ _ _ => rfl, List.suffix_rfl, fun _ mem => mem,
    fun _ => .inl⟩
  trans before middle after one two := by
    refine ⟨two.config.trans one.config, two.attached.trans one.attached,
      fun id => (two.berths id).trans (one.berths id), one.reports.trans two.reports,
      one.grows.trans two.grows, fun reset mem => two.waits reset (one.waits reset mem),
      fun reset mem => ?_⟩
    rcases two.putOff reset mem with earlier | ⟨real, engine, isEngine, number, justifies⟩
    · exact one.putOff reset earlier
    · rw [one.config] at isEngine
      exact .inr ⟨real, engine, isEngine, number,
        justifies.earlier one.attached one.berths one.reports⟩

section Defers

variable {forced : Bool}

/-- Where faults are forced no reset is put off. -/
theorem Defers.unforced (defers : Defers true before after) : Defers forced before after :=
  { defers with
    putOff := fun reset mem => (defers.putOff reset mem).imp_right fun ⟨real, _⟩ => nomatch real }

/-- What drives the hardware and leaves the resets alone that wait. -/
theorem Drives.defers (drives : Drives before after) (deferred : after.deferred = before.deferred) :
    Defers forced before after :=
  ⟨drives.config, drives.attached, drives.berths, drives.hardware.reports, drives.hardware.grows,
    fun _ mem => by rwa [deferred], fun _ mem => .inl (by rwa [deferred] at mem)⟩

/-- What tends puts no reset off. -/
theorem Tends.defers (tends : Tends before after) : Defers forced before after :=
  ⟨tends.config, tends.attached, tends.berths, tends.hardware.reports, tends.hardware.grows,
    fun _ mem => by rwa [tends.deferred], fun _ mem => .inl (by rwa [tends.deferred] at mem)⟩

/-- The service of faults puts resets off. -/
theorem Serving.defers {mask : UInt32} (serving : Serving mask forced before after) :
    Defers forced before after := by
  refine ⟨serving.config, serving.attached, serving.berths, serving.hardware.reports,
    serving.hardware.grows, serving.waits, fun reset mem => ?_⟩
  exact (serving.putOff reset mem).imp_right
    fun ⟨engine, isEngine, number, _, real, justifies⟩ =>
      ⟨real, engine, isEngine, number, justifies⟩

/-- So does the service of all faults of a mask. -/
theorem Serviced.defers {mask : UInt32} (serviced : Serviced mask forced before after) :
    Defers forced before after := by
  cases serviced with
  | partly switched _ serving =>
    exact IsTrans.trans _ _ _ (switched.toDrives.defers switched.deferred) serving.defers
  | wholly switched _ serving _ resumed =>
    have first : Defers forced before _ := switched.toDrives.defers switched.deferred
    have last : Defers forced _ after := resumed.toDrives.defers resumed.deferred
    exact IsTrans.trans _ _ _ (IsTrans.trans _ _ _ first serving.defers) last

/-- Where all faults are forced no runlist comes to be owed a reset. -/
theorem Defers.owes (defers : Defers true before after) (owes : after.Owes list) :
    before.Owes list := by
  obtain ⟨reset, waits, engine, mem, number, here⟩ := owes
  rw [defers.config] at mem
  refine ⟨reset, (defers.putOff reset waits).resolve_right ?_, engine, mem, number, here⟩
  rintro ⟨real, -⟩
  cases real

end Defers

/-- The service of faults loses no reset. -/
theorem defers_handleFaults (forced : Option ForcedFault) :
    Respects (Within Fit (Defers forced.isSome)) (handleFaults forced) := by
  have services : ∀ mask, Respects (Within Fit (Defers forced.isSome))
      (serviceFaults forced mask) := by
    intro mask scheduler fit
    refine ⟨(drives_serviceFaults forced mask scheduler).toStays.fit fit, ?_⟩
    rcases serviced_serviceFaults fit forced mask with same | serviced
    · rw [same]
      exact Std.Refl.refl _
    · exact serviced.defers
  rw [handleFaults_eq]
  cases forced with
  | some fault => exact services fault.faults
  | none =>
    refine Respects.bind ?_ services
    exact (idles_onBus (Bus.idles_read _)).mono fun _ _ idles fit =>
      ⟨idles.toStays.fit fit, idles.tends.defers⟩

/-- An update puts no reset off. -/
theorem defers_updateRunlist (list : Nat) (id : Option Nat) (add wait : Bool) :
    Respects (Within Fit (Defers true)) (updateRunlist list id add wait) := by
  have steps : Steps list (Within Fit (Defers true)) :=
    steps_of_tends (fun _ _ => Tends.defers) (fun forced => defers_handleFaults (some forced)) list
  exact steps.updateRunlist id add wait

/-- An update loses no reset. -/
theorem unforced_updateRunlist (list : Nat) (id : Option Nat) (add wait : Bool) :
    Respects (Within Fit (Defers false)) (updateRunlist list id add wait) :=
  (defers_updateRunlist list id add wait).mono
    fun _ _ within fit => ⟨(within fit).1, (within fit).2.unforced⟩

/-- Recovery loses no reset. -/
theorem recovers_defers : Script.Recovers (Within Fit (Defers false)) where
  idles _ _ idles fit := ⟨idles.toStays.fit fit, idles.tends.defers⟩
  faults forced := by
    cases forced with
    | none => exact defers_handleFaults none
    | some fault =>
      exact (defers_handleFaults (some fault)).mono fun _ _ within fit =>
        ⟨(within fit).1, (within fit).2.unforced⟩
  removes list id := unforced_updateRunlist list (some id) false false

/-- Setting and clearing a disable bit puts no reset off. -/
theorem defers_setEngineDisabled {forced : Bool} (engine : Engine) (disabled : Bool) :
    Respects (Within Fit (Defers forced)) (setEngineDisabled engine disabled) := by
  refine (respects_lift _).bind fun runlists scheduler fit => ?_
  have switches : (setSchedulerDisabled runlists disabled).Yields scheduler
      (fun _ after => after.Fit ∧ Defers forced scheduler after)
      fun _ after => after.Fit ∧ Defers forced scheduler after :=
    (yields_switched runlists disabled scheduler).mono
      (fun _ _ switched =>
        ⟨switched.toStays.fit fit, switched.toDrives.defers switched.deferred⟩)
      fun _ _ => False.elim
  exact switches.holds

/-- An update leaves the runlists disabled for which resets wait. -/
theorem minds_updateRunlist (other : Nat) (id : Option Nat) (add wait : Bool) :
    Respects (Within Fit (Minds list)) (updateRunlist other id add wait) := by
  have steps : Steps other (Within Fit (Minds list)) :=
    steps_of_tends (fun _ _ => Tends.minds) (fun forced => minds_handleFaults (some forced)) other
  exact steps.updateRunlist id add wait

/-- So does recovery. -/
theorem recovers_minds : Script.Recovers (Within Fit (Minds list)) where
  idles _ _ idles fit := ⟨idles.toStays.fit fit, idles.tends.minds⟩
  faults forced := minds_handleFaults forced
  removes other id := minds_updateRunlist other (some id) false false

/-- The disable bit of the runlist of an engine is set or cleared, and nothing else happens. -/
structure Toggles (engine : Engine) (disabled : Bool) (before after : Scheduler) : Prop
    extends Drives before after where
  deferred : after.deferred = before.deferred
  own : after.Disables engine.runlist ↔ disabled = true
  others : ∀ list, list ≠ engine.runlist → (after.Disables list ↔ before.Disables list)

/-- The runlist of an engine is disabled or enabled. -/
theorem yields_toggles (inRange : engine.runlist < 32) (disabled : Bool) :
    (setEngineDisabled engine disabled).Yields scheduler
      (fun _ after => Toggles engine disabled scheduler after) fun _ _ => False := by
  have fits : ∀ runlist ∈ [engine.runlist], runlist < 32 := by simpa using inRange
  obtain ⟨mask, masks, bits⟩ := maskOf_eq fits
  unfold setEngineDisabled
  rw [yields_bind, masks, yields_lift_ok]
  refine (yields_switched mask disabled scheduler).imp fun _ after switched => ?_
  refine ⟨switched.toDrives, switched.deferred, ?_, fun list apart => ?_⟩
  · rw [switched.bits, bits]
    cases disabled <;> simp
  · rw [switched.bits, bits, List.mem_singleton]
    cases disabled <;> simp [apart]

/-- Enabling a runlist leaves the others disabled, and disabling one leaves all of them so. -/
theorem Toggles.minds {disabled : Bool} (toggles : Toggles engine disabled before after)
    (apart : disabled = false → engine.runlist ≠ list) : Minds list before after := by
  have stays : before.Disables list → after.Disables list := by
    intro disables
    by_cases own : list = engine.runlist
    · rw [own, toggles.own]
      by_contra enables
      exact apart (Bool.eq_false_iff.mpr enables) own.symm
    · exact (toggles.others list own).mpr disables
  refine ⟨toggles.config, toggles.hardware.grows, fun gated owes => stays (gated ?_),
    fun _ disables => .inl (stays disables)⟩
  exact (owes_iff toggles.config toggles.deferred).mp owes

end Scheduler

end GpuSched
