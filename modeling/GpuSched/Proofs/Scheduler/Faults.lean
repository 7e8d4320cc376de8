import GpuSched.Proofs.Register.Masks
import GpuSched.Proofs.Scheduler.ActiveSet
import GpuSched.Scheduler.Fault

/-!
# Servicing faults

`blamed` is the target that a fault is blamed on, by the tables and the registers alone. Servicing
faults marks the channels of the blamed targets faulted, keeps the memberships consistent and
leaves everything else as it is; the targets that it answers are the blamed ones with a channel in
use.
-/
namespace GpuSched

open Operation

namespace Device

/-- The registers that recovery writes. -/
def recoveryRegisters : Set Nat :=
  {offset | offset = Register.unitEnable ∨ offset = Register.schedulerDisable ∨
    offset ∈ listRegisters}

/-- The registers that servicing faults writes: those that the hardware reported are acknowledged
as well. -/
def faultRegisters (forced : Option ForcedFault) : Set Nat :=
  {offset | offset ∈ recoveryRegisters ∨
    forced = none ∧ (offset = Register.faultPending ∨ offset = Register.faultHalt)}

/-- The registers that no driver writes: status words and latched faults. -/
def reportRegisters : Set Nat := {offset | 0x2640 ≤ offset ∧ offset < 0x40108}

/-- Servicing faults leaves reports alone. -/
theorem faultRegisters_disjoint (forced : Option ForcedFault) {offset : Nat}
    (report : offset ∈ reportRegisters) : offset ∉ faultRegisters forced := by
  obtain ⟨least, most⟩ := report
  rintro ((enable | disable | ⟨_, last⟩) | ⟨_, pending | halt⟩)
  · rw [enable, Register.unitEnable] at least
    omega
  · rw [disable, Register.schedulerDisable] at least
    omega
  · omega
  · rw [pending, Register.faultPending] at least
    omega
  · rw [halt, Register.faultHalt] at least
    omega

/-- What is written to hand a list over is written by recovery too. -/
theorem listRegisters_subset : listRegisters ⊆ recoveryRegisters :=
  fun _ inside => .inr (.inr inside)

/-- What recovery writes is written by servicing faults too. -/
theorem recoveryRegisters_subset (forced : Option ForcedFault) :
    recoveryRegisters ⊆ faultRegisters forced :=
  fun _ inside => .inl inside

/-- Forced faults have nothing to acknowledge. -/
theorem faultRegisters_some (fault : ForcedFault) :
    faultRegisters (some fault) = recoveryRegisters := by
  ext offset
  simp [faultRegisters]

/-- Recovery leaves reports alone. -/
theorem recoveryRegisters_disjoint {offset : Nat} (report : offset ∈ reportRegisters) :
    offset ∉ recoveryRegisters :=
  fun inside => faultRegisters_disjoint none report (recoveryRegisters_subset none inside)

end Device

namespace Scheduler

variable {exact : Prop} {scheduler before middle after : Scheduler} {id faultId : Nat}
  {channel : Channel} {target : Target}

/-- The bus has changed, but for the words outside of some registers. -/
def Driven (touched : Set Nat) (before after : Scheduler) : Prop :=
  ∃ bus, after = { before with machine := { before.machine with bus } } ∧
    Bus.Spares touched before.machine.bus bus

/-- Driving the hardware stops nothing. -/
theorem Driven.stops {touched : Set Nat} (driven : Driven touched before after) :
    Stops touched ∅ ∅ before after := by
  obtain ⟨bus, rfl, spares⟩ := driven
  exact { Stops.refl touched before with words := spares }

/-- Driving the hardware keeps a scheduler sound. -/
theorem Driven.sound {touched : Set Nat} (driven : Driven touched before after)
    (sound : before.Sound exact) : after.Sound exact := by
  obtain ⟨bus, rfl, _⟩ := driven
  exact sound.elsewhere _ _ _

/-- An operation of the hardware that answers drives the hardware. -/
theorem yields_onBus {α : Type} {operation : Operation Bus α} {touched : Set Nat}
    {answer : α → Prop} (serves : Bus.Serves operation scheduler.machine.bus touched answer) :
    (onBus operation).Yields scheduler
      (fun value after => answer value ∧ Driven touched scheduler after) fun _ _ => False := by
  unfold onBus
  rw [yields_focus]
  exact Yields.imp serves fun value bus ⟨holds, spares⟩ => ⟨holds, bus, rfl, spares⟩

/-- An instance pointer names the same channel. -/
theorem Steady.channelByInstance? (steady : Steady before after) (inst : UInt32) :
    after.channelByInstance? inst = before.channelByInstance? inst := by
  have same : after.channels.map Channel.core = before.channels.map Channel.core := by
    refine Array.ext_getElem? fun id => ?_
    rw [Array.getElem?_map, Array.getElem?_map]
    exact steady.channel id
  have live : ∀ channel : Channel, channel.core.state ≠ .free ↔ channel.state ≠ .free := by
    intro channel
    unfold Channel.core
    by_cases free : channel.state = .free <;> simp [free]
  have named : ∀ scheduler : Scheduler, scheduler.channelByInstance? inst =
      (scheduler.channels.map Channel.core).findIdx? fun channel =>
        channel.state ≠ .free && channel.instancePhysical ≠ 0 &&
          Device.instancePointer channel.instancePhysical =
            inst &&& Register.instancePageMask := by
    intro scheduler
    unfold Scheduler.channelByInstance?
    rw [Array.findIdx?_map]
    dsimp only
    congr 1
    funext channel
    rw [Function.comp_apply, decide_eq_decide.mpr (live channel)]
    rfl
  rw [named, named, same]

/-- An operation of the hardware keeps a scheduler sound and stops nothing. -/
theorem yields_drive {α : Type} {operation : Operation Bus α} {touched wider : Set Nat}
    {answer : α → Prop} (sound : scheduler.Sound exact) (within : touched ⊆ wider)
    (serves : Bus.Serves operation scheduler.machine.bus touched answer) :
    (onBus operation).Yields scheduler
      (fun value after => answer value ∧ after.Sound exact ∧ Stops wider ∅ ∅ scheduler after)
      fun _ _ => False :=
  (yields_onBus serves).imp fun _ _ ⟨holds, driven⟩ =>
    ⟨holds, driven.sound sound, driven.stops.mono within⟩

/-- The decoded status word of an engine, as it stands. -/
def statusOf (scheduler : Scheduler) (engine : Nat) : UnitStatus :=
  .decode (scheduler.machine.bus.word (Device.engineStatusOffset engine))

/-- The context that the report of a fault names, or that software names for it. -/
def named (scheduler : Scheduler) (forced : Option ForcedFault) (inst : UInt32) : Option Target :=
  match forced with
  | some forced => forced.target
  | none => scheduler.faultOwner? inst

/-- The context that a fault is blamed on: the one that is named, or the one that the first engine
with the fault runs. -/
def blamedOr (scheduler : Scheduler) (named : Option Target) (faultId : Nat) : Option Target :=
  match scheduler.config.engines.find? (·.faultId = faultId) with
  | none => none
  | some engine =>
      (named <|> (scheduler.statusOf engine.id).faulting).map scheduler.normalize

/-- The target that a fault is blamed on. -/
def blamed (scheduler : Scheduler) (forced : Option ForcedFault) (faultId : Nat) :
    Option Target :=
  scheduler.blamedOr
    (scheduler.named forced (Device.latchedWords scheduler.machine.bus faultId).inst) faultId

/-- Whether a target has a channel in use. -/
def Live (scheduler : Scheduler) (target : Target) : Prop :=
  ∃ id ∈ scheduler.targetChannels target, ∃ channel, scheduler.channels[id]? = some channel ∧
    channel.state ≠ .free

/-- The channels of the targets that a set of faults is blamed on. -/
def blamedChannels (scheduler : Scheduler) (forced : Option ForcedFault) (faults : List Nat) :
    Set Nat :=
  {id | ∃ faultId ∈ faults, ∃ target, scheduler.blamed forced faultId = some target ∧
    id ∈ scheduler.targetChannels target}

/-- The report of a fault names the same context. -/
theorem Steady.named (steady : Steady before after) (forced : Option ForcedFault)
    (inst : UInt32) : after.named forced inst = before.named forced inst := by
  unfold Scheduler.named faultOwner?
  rw [steady.channelByInstance?]
  simp only [steady.normalize]

/-- Where tables are steady and reports are spared, status words stay. -/
theorem statusOf_eq {touched : Set Nat} (words : Bus.Spares touched before.machine.bus
    after.machine.bus) (apart : ∀ offset ∈ Device.reportRegisters, offset ∉ touched)
    {engine : Nat} (inRange : engine < 32) : after.statusOf engine = before.statusOf engine := by
  unfold statusOf
  rw [words _ (apart _ ⟨by unfold Device.engineStatusOffset; omega,
    by unfold Device.engineStatusOffset; omega⟩)]

/-- Where tables are steady and reports are spared, a fault is blamed on the same target. -/
theorem blamedOr_eq {touched : Set Nat} (shaped : before.Shaped) (steady : Steady before after)
    (words : Bus.Spares touched before.machine.bus after.machine.bus)
    (apart : ∀ offset ∈ Device.reportRegisters, offset ∉ touched) (named : Option Target) :
    after.blamedOr named faultId = before.blamedOr named faultId := by
  unfold blamedOr
  rw [steady.config, funext steady.normalize]
  cases found : before.config.engines.find? (·.faultId = faultId) with
  | none => rfl
  | some engine =>
    have mem := List.mem_of_find?_eq_some found
    dsimp only
    rw [statusOf_eq words apart (shaped.engineFits mem).id]

/-- Where tables are steady and reports are spared, blame stays. -/
theorem blamed_eq {touched : Set Nat} (shaped : before.Shaped) (steady : Steady before after)
    (words : Bus.Spares touched before.machine.bus after.machine.bus)
    (apart : ∀ offset ∈ Device.reportRegisters, offset ∉ touched)
    (forced : Option ForcedFault) (inRange : faultId < 32) :
    after.blamed forced faultId = before.blamed forced faultId := by
  have latched : (Device.latchedWords after.machine.bus faultId).inst =
      (Device.latchedWords before.machine.bus faultId).inst :=
    words _ (apart _ ⟨by omega, by omega⟩)
  unfold blamed
  rw [latched, steady.named, blamedOr_eq shaped steady words apart]

/-- A channel is in use after a steady step just when it was before. -/
theorem Steady.live_iff (steady : Steady before after) :
    (∃ channel, after.channels[id]? = some channel ∧ channel.state ≠ .free) ↔
      ∃ channel, before.channels[id]? = some channel ∧ channel.state ≠ .free := by
  have one : ∀ {first second : Scheduler}, Steady first second →
      (∃ channel, first.channels[id]? = some channel ∧ channel.state ≠ .free) →
      ∃ channel, second.channels[id]? = some channel ∧ channel.state ≠ .free := by
    rintro first second steady ⟨channel, found, live⟩
    obtain ⟨changed, holds, core⟩ := steady.channel_found found
    exact ⟨changed, holds, fun free => live ((state_eq_free_iff core).mp free)⟩
  exact ⟨one steady.symm, one steady⟩

/-- A target has a channel in use after a steady step just when it had one before. -/
theorem Steady.live (steady : Steady before after) (target : Target) :
    after.Live target ↔ before.Live target := by
  unfold Live
  rw [steady.targetChannels]
  simp only [steady.live_iff]

/-- Where blame stays, the channels that faults are blamed on stay. -/
theorem Steady.blamedChannels (steady : Steady before after) {forced : Option ForcedFault}
    {faults : List Nat}
    (blame : ∀ faultId ∈ faults, after.blamed forced faultId = before.blamed forced faultId) :
    after.blamedChannels forced faults = before.blamedChannels forced faults := by
  ext id
  unfold Scheduler.blamedChannels
  simp only [Set.mem_ofPred_eq, steady.targetChannels]
  refine exists_congr fun faultId => and_congr_right fun mem => ?_
  rw [blame faultId mem]

/-- A channel in use that is marked is stopped. -/
theorem stops_marked (found : scheduler.channels[id]? = some channel) (live : channel.state ≠ .free)
    (reason : FaultReason) :
    Stops ∅ {id} ∅ scheduler
      { scheduler with
        channels := scheduler.channels.modify id
          ({ · with state := .faulted, fault := some reason }) } := by
  have same : ∀ held, scheduler.channels[id]? = some held →
      ({ held with state := .faulted, fault := some reason } : Channel).core = held.core := by
    intro held holds
    rw [found, Option.some.injEq] at holds
    subst holds
    simp [Channel.core, live]
  refine { steady_changeChannel same with
    words := .refl ∅ _
    spared := fun {other held} holds kept => ?_
    faulted := fun {other held} mem holds _ => ?_
    stays := fun _ => rfl
    drops := fun mem => absurd mem (Set.notMem_empty _) }
  · have apart : id ≠ other := by
      rintro rfl
      rw [found, Option.some.injEq] at holds
      subst holds
      exact kept.elim (fun outside => outside rfl) live
    rw [Array.getElem?_modify, if_neg apart]
    exact holds
  · rw [Set.mem_singleton_iff] at mem
    rw [mem, Array.getElem?_modify, if_pos rfl, found, Option.map_some, Option.some.injEq] at holds
    rw [← holds]

/-- Marking a channel in use faulted keeps memberships sound. -/
theorem Sound.marked (sound : scheduler.Sound exact)
    (found : scheduler.channels[id]? = some channel)
    (live : channel.state ≠ .free) (reason : FaultReason) :
    ({ scheduler with
        channels := scheduler.channels.modify id
          ({ · with state := .faulted, fault := some reason }) }).Sound exact := by
  refine ⟨sound.shaped.changeChannel _, ?_, fun holds => ?_⟩
  · rw [enrollment_channel found]
    exact sound.consistent.fault (seat_of_found found) live
  · rw [enrollment_channel found]
    exact (sound.counted holds).setSeat

/-- Marking a channel faulted stops it, if it is in use. -/
theorem yields_markFaulted (sound : scheduler.Sound exact) (id : Nat) (reason : FaultReason) :
    (markFaulted id reason).Yields scheduler
      (fun live after => after.Sound exact ∧ Stops ∅ {id} ∅ scheduler after ∧
        (live = true ↔ ∃ channel, scheduler.channels[id]? = some channel ∧
          channel.state ≠ .free))
      fun _ _ => False := by
  unfold markFaulted
  rw [yields_bind, yields_get]
  cases found : scheduler.channels[id]? with
  | none =>
    have idle := (Stops.refl ∅ scheduler).mark (Set.empty_subset {id}) (by
      rintro other rfl _ channel holds
      rw [found] at holds
      cases holds)
    exact ⟨sound, idle, by simp⟩
  | some channel =>
    dsimp only
    split
    · rename_i free
      have idle := (Stops.refl ∅ scheduler).mark (Set.empty_subset {id}) (by
        rintro other rfl _ held holds
        rw [found, Option.some.injEq] at holds
        rw [← holds, free])
      exact ⟨sound, idle, by simp [free]⟩
    · rename_i live
      unfold changeChannel
      rw [yields_bind, yields_modify, yields_pure]
      exact ⟨sound.marked found live reason, stops_marked found live reason, by simp [live]⟩

/-- Marking the channels of a target stops them. -/
theorem yields_markTargetFaulted (sound : scheduler.Sound exact) (target : Target)
    (reason : FaultReason) :
    (markTargetFaulted target reason).Yields scheduler
      (fun any after => after.Sound exact ∧
        Stops ∅ {id | id ∈ scheduler.targetChannels target} ∅ scheduler after ∧
        (any = true ↔ scheduler.Live target))
      fun _ _ => False := by
  unfold markTargetFaulted
  rw [yields_bind, yields_get]
  dsimp only
  refine yields_foldlM (fun done any after =>
    after.Sound exact ∧ Stops ∅ {id | id ∈ done} ∅ scheduler after ∧
      (any = true ↔ ∃ id ∈ done, ∃ channel, scheduler.channels[id]? = some channel ∧
        channel.state ≠ .free)) ?_ ?_
  · refine ⟨sound, (Stops.refl ∅ scheduler).mark (Set.empty_subset _) ?_, by simp⟩
    rintro id ⟨⟩
  · rintro done id rest any middle whole ⟨soundMiddle, stops, found⟩
    rw [yields_bind]
    refine (yields_markFaulted soundMiddle id reason).imp ?_
    rintro live after ⟨soundAfter, stopped, isLive⟩
    rw [yields_pure]
    refine ⟨soundAfter, ?_, ?_⟩
    · have both := stops.trans stopped
      rw [Set.empty_union] at both
      refine both.mark ?_ ?_
      · rintro other (early | rfl)
        · exact List.mem_append_left _ early
        · exact List.mem_append_right _ List.mem_cons_self
      · rintro other mem apart
        rcases List.mem_append.mp mem with early | late
        · exact absurd (.inl early) apart
        · exact absurd (.inr (List.mem_singleton.mp late)) apart
    · rw [Bool.or_eq_true, found, isLive, stops.toSteady.live_iff]
      simp only [List.mem_append, List.mem_singleton]
      constructor
      · rintro (now | ⟨other, mem, early⟩)
        · exact ⟨id, .inr rfl, now⟩
        · exact ⟨other, .inl mem, early⟩
      · rintro ⟨other, early | rfl, holds⟩
        · exact .inr ⟨other, early, holds⟩
        · exact .inl holds

/-- An engine of the configuration can be reset. -/
theorem yields_resetEngine (sound : scheduler.Sound exact) {engine : Engine}
    (fits : Config.EngineFits engine) :
    (resetEngine engine).Yields scheduler
      (fun _ after => after.Sound exact ∧
        Stops Device.recoveryRegisters ∅ ∅ scheduler after)
      fun _ _ => False := by
  have within : ({Register.unitEnable} : Set Nat) ⊆ Device.recoveryRegisters :=
    Set.singleton_subset_iff.mpr (.inl rfl)
  exact (yields_drive sound within (Device.serves_resetUnit fits.reset)).imp fun _ _ => And.right

/-- Resets that are put off stop nothing. -/
theorem stops_deferred (scheduler : Scheduler) (deferred : List DeferredReset)
    (touched : Set Nat) : Stops touched ∅ ∅ scheduler { scheduler with deferred } :=
  { Stops.refl touched scheduler with }

/-- Resets that are put off keep a scheduler sound. -/
theorem Sound.deferred (sound : scheduler.Sound exact) (deferred : List DeferredReset) :
    ({ scheduler with deferred }).Sound exact :=
  sound.elsewhere _ _ _

/-- The reset after a fault is carried out or put off. -/
theorem yields_resetAfterFault (sound : scheduler.Sound exact) {engine : Engine}
    (fits : Config.EngineFits engine) (fault : MemoryFault) (forced : Bool)
    (target : Option Target) :
    (resetAfterFault engine fault forced target).Yields scheduler
      (fun _ after => after.Sound exact ∧
        Stops Device.recoveryRegisters ∅ ∅ scheduler after)
      fun _ _ => False := by
  unfold resetAfterFault
  rw [yields_bind, yields_get]
  split
  · exact ⟨sound.deferred _, stops_deferred scheduler _ _⟩
  · exact yields_resetEngine sound fits

/-- Disable bits of runlists can be set and cleared. -/
theorem yields_setSchedulerDisabled (sound : scheduler.Sound exact) (runlists : UInt32)
    (disabled : Bool) :
    (setSchedulerDisabled runlists disabled).Yields scheduler
      (fun _ after => after.Sound exact ∧
        Stops Device.recoveryRegisters ∅ ∅ scheduler after)
      fun _ _ => False := by
  have within : ({Register.schedulerDisable} : Set Nat) ⊆ Device.recoveryRegisters :=
    Set.singleton_subset_iff.mpr (.inr (.inl rfl))
  unfold setSchedulerDisabled
  split
  · exact ⟨sound, .refl _ scheduler⟩
  · exact (yields_drive sound within (Device.serves_setSchedulerDisabled runlists disabled)).imp
      fun _ _ => And.right

/-- The status word of an engine of the configuration is read as it stands. -/
theorem yields_engineStatus (sound : scheduler.Sound exact) {engine : Nat} (inRange : engine < 32)
    (touched : Set Nat) :
    (engineStatus engine).Yields scheduler
      (fun status after => status = scheduler.statusOf engine ∧ after.Sound exact ∧
        Stops touched ∅ ∅ scheduler after)
      fun _ _ => False := by
  unfold engineStatus
  rw [yields_bind]
  refine (yields_drive sound (Set.empty_subset touched)
    (Device.serves_engineStatus inRange)).imp ?_
  rintro _ after ⟨rfl, rest⟩
  exact ⟨rfl, rest⟩

/-- What is left of servicing a fault once its words have been read. -/
def settleFault (forced : Option ForcedFault) (faultId : Nat) (targets : List Target)
    (words : FaultWords) : Operation Scheduler (List Target) := do
  let fault := MemoryFault.decode faultId words
  match (← get).config.engines.find? (·.faultId = faultId) with
  | none => return targets
  | some engine =>
      let status ← engineStatus engine.id
      let scheduler ← get
      let resolved := match forced with
        | some forced => forced.target
        | none => scheduler.faultOwner? words.inst
      let target := (resolved <|> status.faulting).map scheduler.normalize
      let reason := ((forced.map (·.reason)).getD (.memoryFault fault))
      resetAfterFault engine fault forced.isSome target
      match target with
      | none => return targets
      | some target =>
          let marked ← markTargetFaulted target reason
          return if marked && !targets.contains target then targets ++ [target] else targets

/-- Only the words of a fault that the hardware reports are read. -/
theorem serviceFault_eq (forced : Option ForcedFault) (faultId : Nat) (targets : List Target) :
    serviceFault forced faultId targets =
      match forced with
      | some _ => settleFault forced faultId targets {}
      | none => onBus (Device.faultWords faultId) >>= settleFault forced faultId targets := by
  cases forced <;> rfl

/-- A target that was marked is told once. -/
theorem mem_told {marked : Bool} {targets : List Target} {target other : Target} :
    other ∈ (if marked && !targets.contains target then targets ++ [target] else targets) ↔
      other ∈ targets ∨ target = other ∧ marked = true := by
  cases marked with
  | false => simp
  | true =>
    by_cases told : target ∈ targets
    · have known : target = other → other ∈ targets := fun same => same ▸ told
      simpa [told] using known
    · simp [told, eq_comm]

/-- Settling a fault stops the channels of the target that it is blamed on. -/
theorem yields_settleFault (sound : scheduler.Sound exact) (forced : Option ForcedFault)
    (targets : List Target) (words : FaultWords) :
    (settleFault forced faultId targets words).Yields scheduler
      (fun now after => after.Sound exact ∧
        Stops Device.recoveryRegisters
          {id | ∃ target, scheduler.blamedOr (scheduler.named forced words.inst) faultId =
            some target ∧ id ∈ scheduler.targetChannels target} ∅ scheduler after ∧
        ∀ target, target ∈ now ↔ target ∈ targets ∨
          scheduler.blamedOr (scheduler.named forced words.inst) faultId = some target ∧
            scheduler.Live target)
      fun _ _ => False := by
  unfold settleFault
  dsimp only
  rw [yields_bind, yields_get]
  cases found : scheduler.config.engines.find? (·.faultId = faultId) with
  | none =>
    have nobody : scheduler.blamedOr (scheduler.named forced words.inst) faultId = none := by
      unfold blamedOr
      rw [found]
    rw [nobody]
    refine ⟨sound, (Stops.refl _ scheduler).mark (Set.empty_subset _) ?_, by simp⟩
    rintro id ⟨target, ⟨⟩, _⟩
  | some engine =>
    have fits := sound.shaped.engineFits (List.mem_of_find?_eq_some found)
    dsimp only
    rw [yields_bind]
    refine (yields_engineStatus sound fits.id Device.recoveryRegisters).imp ?_
    rintro _ read ⟨rfl, soundRead, stopsRead⟩
    rw [yields_bind, yields_get]
    have blame : scheduler.blamedOr (scheduler.named forced words.inst) faultId =
        (read.named forced words.inst <|> (scheduler.statusOf engine.id).faulting).map
          read.normalize := by
      rw [stopsRead.toSteady.named, funext stopsRead.toSteady.normalize]
      unfold blamedOr
      rw [found]
    rw [blame]
    unfold Scheduler.named
    generalize (Option.map read.normalize _) = blamed
    rw [yields_bind]
    refine (yields_resetAfterFault soundRead fits _ _ blamed).imp ?_
    rintro _ reset ⟨soundReset, stopsReset⟩
    have quiet := stopsRead.quiet_trans stopsReset
    cases blamed with
    | none =>
      refine ⟨soundReset, quiet.mark (Set.empty_subset _) ?_, by simp⟩
      rintro id ⟨target, ⟨⟩, _⟩
    | some target =>
      dsimp only
      rw [yields_bind]
      refine (yields_markTargetFaulted soundReset target _).imp ?_
      rintro marked after ⟨soundAfter, stopsAfter, isLive⟩
      have whole := quiet.quiet_trans (stopsAfter.mono (Set.empty_subset _))
      rw [quiet.toSteady.targetChannels] at whole
      rw [quiet.toSteady.live] at isLive
      rw [yields_pure]
      refine ⟨soundAfter, ?_, fun other => ?_⟩
      · have covered : {id | ∃ held, some target = some held ∧
            id ∈ scheduler.targetChannels held} = {id | id ∈ scheduler.targetChannels target} := by
          ext id
          simp
        rw [covered]
        exact whole
      · rw [Option.some.injEq, mem_told, isLive]
        exact or_congr_right (and_congr_right fun same => by rw [same])

/-- Servicing a fault stops the channels of the target that it is blamed on. -/
theorem yields_serviceFault (sound : scheduler.Sound exact) (forced : Option ForcedFault)
    (inRange : faultId < 32) (targets : List Target) :
    (serviceFault forced faultId targets).Yields scheduler
      (fun now after => after.Sound exact ∧
        Stops Device.recoveryRegisters (scheduler.blamedChannels forced [faultId]) ∅
          scheduler after ∧
        ∀ target, target ∈ now ↔ target ∈ targets ∨
          scheduler.blamed forced faultId = some target ∧ scheduler.Live target)
      fun _ _ => False := by
  have one : scheduler.blamedChannels forced [faultId] =
      {id | ∃ target, scheduler.blamed forced faultId = some target ∧
        id ∈ scheduler.targetChannels target} := by
    ext id
    simp [blamedChannels]
  rw [serviceFault_eq, one]
  cases forced with
  | some forced => exact yields_settleFault sound (some forced) targets {}
  | none =>
    dsimp only
    rw [yields_bind]
    refine (yields_drive sound (Set.empty_subset Device.recoveryRegisters)
      (Device.serves_faultWords inRange)).imp ?_
    rintro _ read ⟨rfl, soundRead, stopsRead⟩
    refine (yields_settleFault soundRead none targets _).imp ?_
    rintro now after ⟨soundAfter, stopsAfter, holds⟩
    have steady := stopsRead.toSteady
    have blame : ∀ named, read.blamedOr named faultId = scheduler.blamedOr named faultId :=
      blamedOr_eq sound.shaped steady stopsRead.words fun _ => Device.recoveryRegisters_disjoint
    rw [steady.named, blame] at stopsAfter holds
    simp only [steady.targetChannels, steady.live] at stopsAfter holds
    exact ⟨soundAfter, stopsRead.quiet_trans stopsAfter, holds⟩

/-- The faults that are to be serviced: those that are forced, or those that are pending. -/
def faultList (scheduler : Scheduler) (forced : Option ForcedFault) : List Nat :=
  match forced with
  | some forced => Simulation.setBits forced.faults
  | none => Simulation.setBits (scheduler.machine.bus.word Register.faultPending)

/-- What is left of servicing faults once their mask is known. -/
def serviceFaults (forced : Option ForcedFault) (mask : UInt32) :
    Operation Scheduler (List Target) := do
  if mask = 0 then
    return []
  let engines ← (← get).config.engines.filterM fun engine => hasBit mask engine.faultId
  let runlists ← maskOf (engines.map (·.runlist))
  setSchedulerDisabled runlists true
  let targets ← (Simulation.setBits mask).foldlM
    (fun targets faultId => serviceFault forced faultId targets) []
  if forced.isNone then
    onBus (Device.clearFaults mask)
    onBus Device.resumeAfterFault
  let held ← (← get).deferredRunlists
  setSchedulerDisabled (runlists &&& ~~~held) false
  return targets

/-- Only the mask of the faults that the hardware reports is read. -/
theorem handleFaults_eq (forced : Option ForcedFault) :
    handleFaults forced =
      match forced with
      | some fault => serviceFaults (some fault) fault.faults
      | none => onBus Device.pendingFaults >>= serviceFaults none := by
  cases forced <;> rfl

/-- Servicing faults one after the other stops the channels that they are blamed on. -/
theorem yields_serviceEach (sound : scheduler.Sound exact) (forced : Option ForcedFault)
    {faults : List Nat} (inRange : ∀ faultId ∈ faults, faultId < 32) :
    (faults.foldlM (fun targets faultId => serviceFault forced faultId targets) []).Yields scheduler
      (fun targets after => after.Sound exact ∧
        Stops Device.recoveryRegisters (scheduler.blamedChannels forced faults) ∅ scheduler after ∧
        ∀ target, target ∈ targets ↔
          (∃ faultId ∈ faults, scheduler.blamed forced faultId = some target) ∧
            scheduler.Live target)
      fun _ _ => False := by
  refine yields_foldlM (fun done (targets : List Target) after => after.Sound exact ∧
    Stops Device.recoveryRegisters (scheduler.blamedChannels forced done) ∅ scheduler after ∧
    ∀ target, target ∈ targets ↔
      (∃ faultId ∈ done, scheduler.blamed forced faultId = some target) ∧
        scheduler.Live target) ?_ ?_
  · refine ⟨sound, (Stops.refl _ scheduler).mark (Set.empty_subset _) ?_, by simp⟩
    rintro id ⟨faultId, ⟨⟩, _⟩
  · rintro done faultId rest targets middle whole ⟨soundMiddle, stops, listed⟩
    have small : faultId < 32 := inRange faultId (by simp [whole])
    have steady := stops.toSteady
    have blame : middle.blamed forced faultId = scheduler.blamed forced faultId :=
      blamed_eq sound.shaped steady stops.words
        (fun _ => Device.recoveryRegisters_disjoint) forced small
    refine (yields_serviceFault soundMiddle forced small targets).imp ?_
    rintro now after ⟨soundAfter, stopsAfter, holds⟩
    refine ⟨soundAfter, ?_, fun target => ?_⟩
    · have covered : scheduler.blamedChannels forced (done ++ [faultId]) =
          scheduler.blamedChannels forced done ∪ middle.blamedChannels forced [faultId] := by
        ext id
        simp only [blamedChannels, Set.mem_ofPred_eq, Set.mem_union, List.mem_append,
          List.mem_singleton, steady.targetChannels]
        constructor
        · rintro ⟨held, early | rfl, target, blames, covers⟩
          · exact .inl ⟨held, early, target, blames, covers⟩
          · exact .inr ⟨held, rfl, target, by rw [blame]; exact blames, covers⟩
        · rintro (⟨held, early, rest⟩ | ⟨held, rfl, target, blames, covers⟩)
          · exact ⟨held, .inl early, rest⟩
          · exact ⟨held, .inr rfl, target, by rw [← blame]; exact blames, covers⟩
      have both := stops.trans stopsAfter
      rw [Set.union_self] at both
      rw [covered]
      exact both
    · rw [holds, listed, blame, steady.live]
      simp only [List.mem_append, List.mem_singleton]
      constructor
      · rintro (⟨⟨held, early, blames⟩, live⟩ | ⟨blames, live⟩)
        · exact ⟨⟨held, .inl early, blames⟩, live⟩
        · exact ⟨⟨faultId, .inr rfl, blames⟩, live⟩
      · rintro ⟨⟨held, early | rfl, blames⟩, live⟩
        · exact .inl ⟨⟨held, early, blames⟩, live⟩
        · exact .inr ⟨blames, live⟩

/-- The runlists that waiting resets keep disabled have a mask. -/
theorem deferredRunlists_eq (sound : scheduler.Sound exact) :
    ∃ held, scheduler.deferredRunlists = .ok held := by
  have fits : ∀ runlist ∈ (scheduler.config.engines.filter fun engine =>
      scheduler.deferred.any (·.engine = engine.id)).map (·.runlist), runlist < 32 := by
    intro runlist mem
    obtain ⟨engine, isHeld, rfl⟩ := List.mem_map.mp mem
    have small := (sound.shaped.engineFits (List.mem_of_mem_filter isHeld)).runlist
    omega
  obtain ⟨held, holds, _⟩ := maskOf_eq fits
  exact ⟨held, holds⟩

/-- What is left of servicing faults once the targets are known. -/
def resumeAfterFaults (forced : Option ForcedFault) (mask runlists : UInt32)
    (targets : List Target) : Operation Scheduler (List Target) := do
  if forced.isNone then
    onBus (Device.clearFaults mask)
    onBus Device.resumeAfterFault
  let held ← (← get).deferredRunlists
  setSchedulerDisabled (runlists &&& ~~~held) false
  return targets

/-- Enabling the runlists that no waiting reset keeps disabled stops nothing. -/
theorem yields_enableRunlists (sound : scheduler.Sound exact) (runlists : UInt32) :
    (do
      let held ← (← get).deferredRunlists
      setSchedulerDisabled (runlists &&& ~~~held) false : Operation Scheduler Unit).Yields scheduler
      (fun _ after => after.Sound exact ∧
        Stops Device.recoveryRegisters ∅ ∅ scheduler after)
      fun _ _ => False := by
  obtain ⟨held, holds⟩ := deferredRunlists_eq sound
  rw [yields_bind, yields_get, yields_bind, holds, yields_lift_ok]
  exact yields_setSchedulerDisabled sound _ _

/-- The targets are answered once the runlists are enabled. -/
theorem yields_answerTargets (sound : scheduler.Sound exact) (runlists : UInt32)
    (targets : List Target) :
    (do
      let held ← (← get).deferredRunlists
      setSchedulerDisabled (runlists &&& ~~~held) false
      return targets : Operation Scheduler (List Target)).Yields scheduler
      (fun answer after => answer = targets ∧ after.Sound exact ∧
        Stops Device.recoveryRegisters ∅ ∅ scheduler after)
      fun _ _ => False := by
  obtain ⟨held, holds⟩ := deferredRunlists_eq sound
  rw [yields_bind, yields_get, yields_bind, holds, yields_lift_ok, yields_bind]
  exact (yields_setSchedulerDisabled sound _ _).imp fun _ _ kept => ⟨rfl, kept⟩

/-- Resuming after faults stops nothing more. -/
theorem yields_resumeAfterFaults (sound : scheduler.Sound exact) (forced : Option ForcedFault)
    (mask runlists : UInt32) (targets : List Target) :
    (resumeAfterFaults forced mask runlists targets).Yields scheduler
      (fun answer after => answer = targets ∧ after.Sound exact ∧
        Stops (Device.faultRegisters forced) ∅ ∅ scheduler after)
      fun _ _ => False := by
  cases forced with
  | some fault =>
    refine (yields_answerTargets sound runlists targets).imp ?_
    rintro answer after ⟨same, soundAfter, stops⟩
    exact ⟨same, soundAfter, stops.mono (Device.recoveryRegisters_subset _)⟩
  | none =>
    have pending : ({Register.faultPending} : Set Nat) ⊆ Device.faultRegisters none :=
      Set.singleton_subset_iff.mpr (.inr ⟨rfl, .inl rfl⟩)
    have halt : ({Register.faultHalt} : Set Nat) ⊆ Device.faultRegisters none :=
      Set.singleton_subset_iff.mpr (.inr ⟨rfl, .inr rfl⟩)
    change (onBus (Device.clearFaults mask) >>= fun _ => onBus Device.resumeAfterFault >>= fun _ =>
      _ : Operation Scheduler (List Target)).Yields _ _ _
    rw [yields_bind]
    refine (yields_drive sound pending (Device.serves_clearFaults mask)).imp ?_
    rintro _ cleared ⟨_, soundCleared, stopsCleared⟩
    rw [yields_bind]
    refine (yields_drive soundCleared halt Device.serves_resumeAfterFault).imp ?_
    rintro _ resumed ⟨_, soundResumed, stopsResumed⟩
    refine (yields_answerTargets soundResumed runlists targets).imp ?_
    rintro answer after ⟨same, soundAfter, stops⟩
    exact ⟨same, soundAfter, (stopsCleared.quiet_trans stopsResumed).quiet_trans
      (stops.mono (Device.recoveryRegisters_subset _))⟩

/-- What is left of servicing faults once the runlists of their engines are known. -/
def serviceOn (forced : Option ForcedFault) (mask runlists : UInt32) :
    Operation Scheduler (List Target) := do
  setSchedulerDisabled runlists true
  let targets ← (Simulation.setBits mask).foldlM
    (fun targets faultId => serviceFault forced faultId targets) []
  resumeAfterFaults forced mask runlists targets

/-- The runlists of the engines with faults of a mask are found first. -/
theorem run_serviceFaults (fits : ∀ engine ∈ scheduler.config.engines, Config.EngineFits engine)
    (forced : Option ForcedFault) {mask : UInt32} (some_fault : mask ≠ 0) :
    ∃ runlists, serviceFaults forced mask scheduler = serviceOn forced mask runlists scheduler ∧
      ∀ list, list ∈ Simulation.setBits runlists ↔ ∃ engine ∈ scheduler.config.engines,
        engine.faultId ∈ Simulation.setBits mask ∧ engine.runlist = list := by
  have tests : ∀ engine ∈ scheduler.config.engines,
      (liftM (hasBit mask engine.faultId) : Operation Scheduler Bool) =
        pure (decide (engine.faultId ∈ Simulation.setBits mask)) := by
    intro engine mem
    rw [hasBit_eq mask (fits engine mem).faultId]
    rfl
  have inRange : ∀ runlist ∈ (scheduler.config.engines.filter fun engine =>
      decide (engine.faultId ∈ Simulation.setBits mask)).map (·.runlist), runlist < 32 := by
    intro runlist mem
    obtain ⟨engine, isFaulted, rfl⟩ := List.mem_map.mp mem
    exact (fits engine (List.mem_of_mem_filter isFaulted)).runlist.trans (by decide)
  obtain ⟨runlists, masks, bits⟩ := maskOf_eq inRange
  refine ⟨runlists, ?_, fun list => ?_⟩
  · have reads : (get : Operation Scheduler Scheduler) scheduler = (.ok scheduler, scheduler) := rfl
    unfold serviceFaults
    rw [if_neg some_fault, run_bind_of_ok reads, filterM_eq_pure tests, pure_bind, masks]
    rfl
  · simp only [bits, List.mem_map, List.mem_filter, decide_eq_true_iff, and_assoc]

/-- Servicing the faults of a mask stops the channels that they are blamed on. -/
theorem yields_serviceFaults (sound : scheduler.Sound exact) (forced : Option ForcedFault)
    (mask : UInt32) :
    (serviceFaults forced mask).Yields scheduler
      (fun targets after => after.Sound exact ∧
        Stops (Device.faultRegisters forced)
          (scheduler.blamedChannels forced (Simulation.setBits mask)) ∅ scheduler after ∧
        ∀ target, target ∈ targets ↔
          (∃ faultId ∈ Simulation.setBits mask, scheduler.blamed forced faultId = some target) ∧
            scheduler.Live target)
      fun _ _ => False := by
  have inRange : ∀ faultId ∈ Simulation.setBits mask, faultId < 32 :=
    fun faultId mem => (Simulation.mem_setBits.mp mem).1
  by_cases zero : mask = 0
  · unfold serviceFaults
    rw [if_pos zero, zero, Simulation.setBits_zero]
    refine ⟨sound, (Stops.refl _ scheduler).mark (Set.empty_subset _) ?_, by simp⟩
    rintro id ⟨faultId, ⟨⟩, _⟩
  · obtain ⟨runlists, run, -⟩ :=
      run_serviceFaults (fun _ => sound.shaped.engineFits) forced zero
    unfold Yields
    rw [run]
    change (serviceOn forced mask runlists).Yields scheduler _ _
    unfold serviceOn
    rw [yields_bind]
    refine (yields_setSchedulerDisabled sound runlists true).imp ?_
    rintro _ disabled ⟨soundDisabled, stopsDisabled⟩
    rw [yields_bind]
    refine (yields_serviceEach soundDisabled forced inRange).imp ?_
    rintro targets serviced ⟨soundServiced, stopsServiced, listed⟩
    refine (yields_resumeAfterFaults soundServiced forced mask runlists targets).imp ?_
    rintro answer after ⟨rfl, soundAfter, stopsAfter⟩
    have blame : ∀ faultId ∈ Simulation.setBits mask,
        disabled.blamed forced faultId = scheduler.blamed forced faultId := fun faultId mem =>
      blamed_eq sound.shaped stopsDisabled.toSteady stopsDisabled.words
        (fun _ => Device.recoveryRegisters_disjoint) forced (inRange faultId mem)
    rw [stopsDisabled.toSteady.blamedChannels blame] at stopsServiced
    refine ⟨soundAfter, ?_, fun target => ?_⟩
    · have serviced := stopsDisabled.quiet_trans stopsServiced
      exact (serviced.mono (Device.recoveryRegisters_subset forced)).trans_quiet stopsAfter
    · rw [listed, stopsDisabled.toSteady.live]
      refine and_congr_left fun _ => exists_congr fun faultId => and_congr_right fun mem => ?_
      rw [blame faultId mem]

/-- Servicing faults stops the channels that they are blamed on, and answers the targets with a
channel in use. -/
theorem yields_handleFaults (sound : scheduler.Sound exact) (forced : Option ForcedFault) :
    (handleFaults forced).Yields scheduler
      (fun targets after => after.Sound exact ∧
        Stops (Device.faultRegisters forced)
          (scheduler.blamedChannels forced (scheduler.faultList forced)) ∅ scheduler after ∧
        ∀ target, target ∈ targets ↔
          (∃ faultId ∈ scheduler.faultList forced, scheduler.blamed forced faultId = some target) ∧
            scheduler.Live target)
      fun _ _ => False := by
  rw [handleFaults_eq]
  cases forced with
  | some fault => exact yields_serviceFaults sound (some fault) fault.faults
  | none =>
    dsimp only
    rw [yields_bind]
    refine (yields_drive sound (Set.empty_subset Device.recoveryRegisters)
      Device.serves_pendingFaults).imp ?_
    rintro _ read ⟨rfl, soundRead, stopsRead⟩
    refine (yields_serviceFaults soundRead none _).imp ?_
    rintro targets after ⟨soundAfter, stopsAfter, listed⟩
    have blame : ∀ faultId ∈ scheduler.faultList none,
        read.blamed none faultId = scheduler.blamed none faultId := fun faultId mem =>
      blamed_eq sound.shaped stopsRead.toSteady stopsRead.words
        (fun _ => Device.recoveryRegisters_disjoint) none (Simulation.mem_setBits.mp mem).1
    change Stops _ (read.blamedChannels none (scheduler.faultList none)) _ _ _ at stopsAfter
    rw [stopsRead.toSteady.blamedChannels blame] at stopsAfter
    refine ⟨soundAfter, (stopsRead.mono (Device.recoveryRegisters_subset none)).quiet_trans
      stopsAfter, fun target => ?_⟩
    rw [listed, stopsRead.toSteady.live]
    refine and_congr_left fun _ => exists_congr fun faultId => and_congr_right fun mem => ?_
    rw [blame faultId mem]

end Scheduler

end GpuSched
