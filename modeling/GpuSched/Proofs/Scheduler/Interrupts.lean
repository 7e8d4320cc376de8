import GpuSched.Proofs.Scheduler.Recovery

/-!
# Servicing interrupts

Three sources of an interrupt stop contexts: a context switch that does not end, memory faults, and
PBDMA units with an unusable command stream. What each of them stops is said by the registers as
they are when the interrupt is serviced, for servicing one source changes neither the registers that
another is read from nor the tables that it is resolved in.
-/
namespace GpuSched

open Operation

namespace Device

/-- Between the lists and the channels, recovery writes the disable bits of the runlists alone. -/
theorem notMem_recoveryRegisters {offset : Nat} (past : 0x2370 ≤ offset)
    (other : offset ≠ Register.schedulerDisable) : offset ∉ recoveryRegisters := by
  rintro (enable | disable | ⟨_, last⟩)
  · rw [enable, Register.unitEnable] at past
    omega
  · exact other disable
  · omega

/-- The registers that servicing some PBDMA units writes. -/
def pbdmaRegisters (units : List Nat) : Set Nat :=
  {offset | offset ∈ recoveryRegisters ∨ ∃ unit ∈ units, offset = pbdmaInterruptOffset unit}

/-- Servicing PBDMA units leaves reports alone. -/
theorem pbdmaRegisters_disjoint (units : List Nat) {offset : Nat}
    (report : offset ∈ reportRegisters) : offset ∉ pbdmaRegisters units := by
  rintro (inside | ⟨unit, _, rfl⟩)
  · exact recoveryRegisters_disjoint report inside
  · have most := report.2
    unfold pbdmaInterruptOffset at most
    omega

/-- Servicing PBDMA units leaves the interrupts of another one alone. -/
theorem pbdmaInterruptOffset_notMem {units : List Nat} {unit : Nat} (other : unit ∉ units) :
    pbdmaInterruptOffset unit ∉ pbdmaRegisters units := by
  rintro (inside | ⟨serviced, mem, same⟩)
  · refine notMem_recoveryRegisters ?_ ?_ inside
    · unfold pbdmaInterruptOffset
      omega
    · unfold pbdmaInterruptOffset Register.schedulerDisable
      omega
  · have own : unit = serviced := by
      unfold pbdmaInterruptOffset at same
      omega
    exact other (own ▸ mem)

end Device

/-- A channel without its events. -/
def Channel.silent (channel : Channel) : Channel := { channel with events := 0 }

/-- The count of events has no room for another one. -/
def Channel.EventsFull (channel : Channel) : Prop := Checked.limit64 ≤ channel.events + 1

namespace Scheduler

variable {exact : Prop} {scheduler before middle after : Scheduler} {id : Nat}
  {channel : Channel} {touched : Set Nat}

/-- The contexts of the engines that do not finish a context switch. -/
def switchContexts (scheduler : Scheduler) (engines : List Engine) : Set Nat :=
  {id | ∃ engine ∈ engines, (scheduler.statusOf engine.id).busy = true ∧
    (scheduler.statusOf engine.id).context.switching = true ∧ id ∈ scheduler.engineContext engine}

/-- Recovering the engines that do not finish a context switch stops their contexts. -/
theorem yields_recoverSwitches (sound : scheduler.Sound exact) {engines : List Engine}
    (within : ∀ engine ∈ engines, engine ∈ scheduler.config.engines) :
    (engines.forM fun engine => do
      let status ← engineStatus engine.id
      if status.busy && status.context.switching then
        let faults ← maskOf [engine.faultId]
        removeTargets (← handleFaults (some {
          faults, target := status.faulting, reason := .switchTimeout })) :
      Operation Scheduler Unit).Yields scheduler
      (fun _ after => after.Sound exact ∧
        Stops Device.recoveryRegisters (scheduler.switchContexts engines)
          (scheduler.switchContexts engines) scheduler after)
      fun _ _ => False := by
  refine yields_forM (fun done after => after.Sound exact ∧
    Stops Device.recoveryRegisters (scheduler.switchContexts done)
      (scheduler.switchContexts done) scheduler after) ?_ ?_
  · have none : scheduler.switchContexts [] = ∅ := by
      ext id
      simp [switchContexts]
    rw [none]
    exact ⟨sound, .refl _ scheduler⟩
  · rintro done engine rest current whole ⟨soundCurrent, stops⟩
    have mem : engine ∈ scheduler.config.engines := within engine (by simp [whole])
    have memCurrent : engine ∈ current.config.engines := by
      rw [stops.toSteady.config]
      exact mem
    have fits := sound.shaped.engineFits mem
    have status : current.statusOf engine.id = scheduler.statusOf engine.id :=
      statusOf_eq stops.words (fun _ => Device.recoveryRegisters_disjoint) fits.id
    have context : current.engineContext engine = scheduler.engineContext engine :=
      engineContext_eq sound.shaped stops.toSteady stops.words
        (fun _ => Device.recoveryRegisters_disjoint) mem
    have more : scheduler.switchContexts (done ++ [engine]) =
        scheduler.switchContexts done ∪ scheduler.switchContexts [engine] := by
      ext id
      simp only [switchContexts, Set.mem_union, Set.mem_ofPred_eq, List.mem_append, or_and_right,
        exists_or]
    rw [yields_bind]
    refine (yields_engineStatus soundCurrent fits.id Device.recoveryRegisters).imp ?_
    rintro _ read ⟨rfl, soundRead, stopsRead⟩
    split
    · rename_i switches
      rw [Bool.and_eq_true, status] at switches
      refine (yields_forceEngine soundCurrent soundRead stopsRead memCurrent .switchTimeout).imp ?_
      rintro _ after ⟨soundAfter, stopsAfter⟩
      have own : scheduler.switchContexts [engine] = scheduler.engineContext engine := by
        ext id
        simp [switchContexts, switches.1, switches.2]
      rw [context, ← own] at stopsAfter
      rw [more]
      exact ⟨soundAfter, stops.trans stopsAfter⟩
    · rename_i settled
      rw [Bool.and_eq_true, status] at settled
      have own : scheduler.switchContexts [engine] = ∅ := by
        ext id
        simp only [switchContexts, List.mem_singleton, exists_eq_left, Set.mem_ofPred_eq,
          Set.mem_empty_iff_false, iff_false]
        exact fun switches => settled ⟨switches.1, switches.2.1⟩
      rw [more, own, Set.union_empty]
      exact ⟨soundRead, stops.trans_quiet stopsRead⟩

/-- What a scheduler error stops. -/
def errorContexts (scheduler : Scheduler) : Set Nat :=
  {id | scheduler.machine.bus.word Register.schedulerError = Register.switchTimeoutCode ∧
    id ∈ scheduler.switchContexts scheduler.config.engines}

/-- Servicing a scheduler error stops the contexts that it is blamed on. -/
theorem yields_handleSchedulerError (sound : scheduler.Sound exact) :
    handleSchedulerError.Yields scheduler
      (fun _ after => after.Sound exact ∧
        Stops Device.recoveryRegisters scheduler.errorContexts scheduler.errorContexts
          scheduler after)
      fun _ _ => False := by
  unfold handleSchedulerError
  rw [yields_bind]
  refine (yields_drive sound (Set.empty_subset Device.recoveryRegisters)
    Device.serves_schedulerErrorCode).imp ?_
  rintro code read ⟨same, soundRead, stopsRead⟩
  have contexts : read.switchContexts read.config.engines =
      scheduler.switchContexts scheduler.config.engines := by
    rw [stopsRead.toSteady.config]
    ext id
    refine exists_congr fun engine => and_congr_right fun mem => ?_
    rw [statusOf_eq stopsRead.words (fun _ => Device.recoveryRegisters_disjoint)
        (sound.shaped.engineFits mem).id,
      engineContext_eq sound.shaped stopsRead.toSteady stopsRead.words
        (fun _ => Device.recoveryRegisters_disjoint) mem]
  split
  · rename_i timeout
    have all : scheduler.errorContexts = scheduler.switchContexts scheduler.config.engines := by
      ext id
      exact ⟨And.right, fun mem => ⟨same ▸ timeout, mem⟩⟩
    rw [yields_bind, yields_get]
    refine (yields_recoverSwitches soundRead fun _ => id).imp ?_
    rintro _ after ⟨soundAfter, stopsAfter⟩
    rw [contexts, ← all] at stopsAfter
    exact ⟨soundAfter, stopsRead.quiet_trans stopsAfter⟩
  · rename_i other
    have none : scheduler.errorContexts = ∅ := by
      ext id
      simp only [errorContexts, Set.mem_ofPred_eq, Set.mem_empty_iff_false, iff_false]
      exact fun mem => other (same.trans mem.1)
    rw [none]
    exact ⟨soundRead, stopsRead⟩

/-- The decoded status word of a PBDMA, as it stands. -/
def pbdmaStatusOf (scheduler : Scheduler) (unit : Nat) : UnitStatus :=
  .decode (scheduler.machine.bus.word (Device.pbdmaStatusOffset unit))

/-- The pending interrupts of a PBDMA, as they stand. -/
def pbdmaInterruptsOf (scheduler : Scheduler) (unit : Nat) : UInt32 :=
  scheduler.machine.bus.word (Device.pbdmaInterruptOffset unit)

/-- What the interrupts of some PBDMA units stop. -/
def pbdmaContexts (scheduler : Scheduler) (units : List Nat) : Set Nat :=
  {id | ∃ unit ∈ units, scheduler.pbdmaInterruptsOf unit &&& Register.pbdmaDeviceMask ≠ 0 ∧
    ∃ target, (scheduler.pbdmaStatusOf unit).resident = some target ∧
      id ∈ scheduler.contextOf target}

/-- The status word of a PBDMA is read as it stands. -/
theorem yields_pbdmaStatus (sound : scheduler.Sound exact) {unit : Nat} (inRange : unit < 32)
    (touched : Set Nat) :
    (pbdmaStatus unit).Yields scheduler
      (fun status after => status = scheduler.pbdmaStatusOf unit ∧ after.Sound exact ∧
        Stops touched ∅ ∅ scheduler after)
      fun _ _ => False := by
  unfold pbdmaStatus
  rw [yields_bind]
  refine (yields_drive sound (Set.empty_subset touched)
    (Device.serves_pbdmaStatus inRange)).imp ?_
  rintro _ after ⟨rfl, rest⟩
  exact ⟨rfl, rest⟩

/-- Where reports are spared, the status words of PBDMA units stay. -/
theorem pbdmaStatusOf_eq (words : Bus.Spares touched before.machine.bus after.machine.bus)
    (apart : ∀ offset ∈ Device.reportRegisters, offset ∉ touched) {unit : Nat}
    (inRange : unit < 32) : after.pbdmaStatusOf unit = before.pbdmaStatusOf unit := by
  unfold pbdmaStatusOf
  rw [words _ (apart _ ⟨by unfold Device.pbdmaStatusOffset; omega,
    by unfold Device.pbdmaStatusOffset; omega⟩)]

/-- Servicing a PBDMA unit stops the context on it, if its command stream is unusable. -/
theorem yields_handlePbdma (sound : scheduler.Sound exact) {unit : Nat} (inRange : unit < 32) :
    (handlePbdma unit).Yields scheduler
      (fun _ after => after.Sound exact ∧
        Stops (Device.pbdmaRegisters [unit]) (scheduler.pbdmaContexts [unit])
          (scheduler.pbdmaContexts [unit]) scheduler after)
      fun _ _ => False := by
  have own : ({Device.pbdmaInterruptOffset unit} : Set Nat) ⊆ Device.pbdmaRegisters [unit] :=
    Set.singleton_subset_iff.mpr (.inr ⟨unit, List.mem_singleton.mpr rfl, rfl⟩)
  have recovers : Device.recoveryRegisters ⊆ Device.pbdmaRegisters [unit] := fun _ => .inl
  unfold handlePbdma
  rw [yields_bind]
  refine (yields_drive sound (Set.empty_subset (Device.pbdmaRegisters [unit]))
    (Device.serves_pbdmaInterrupts inRange)).imp ?_
  rintro _ read ⟨rfl, soundRead, stopsRead⟩
  rw [yields_bind]
  refine (yields_drive soundRead own (Device.serves_clearPbdmaInterrupts inRange _)).imp ?_
  rintro _ cleared ⟨_, soundCleared, stopsCleared⟩
  have quiet := stopsRead.quiet_trans stopsCleared
  change Yields (if scheduler.pbdmaInterruptsOf unit &&& Register.pbdmaDeviceMask ≠ 0 then _
    else _) cleared _ _
  split
  · rename_i unusable
    rw [yields_bind]
    refine (yields_pbdmaStatus soundCleared inRange (Device.pbdmaRegisters [unit])).imp ?_
    rintro _ asked ⟨rfl, soundAsked, stopsAsked⟩
    rw [pbdmaStatusOf_eq quiet.words (fun _ => Device.pbdmaRegisters_disjoint [unit]) inRange]
    have before := quiet.quiet_trans stopsAsked
    cases resident : (scheduler.pbdmaStatusOf unit).resident with
    | none =>
      have none : scheduler.pbdmaContexts [unit] = ∅ := by
        ext id
        simp [pbdmaContexts, resident]
      rw [none]
      exact ⟨soundAsked, before⟩
    | some target =>
      have context : scheduler.pbdmaContexts [unit] = scheduler.contextOf target := by
        ext id
        simp [pbdmaContexts, resident, unusable]
      refine (yields_recoverTarget soundAsked target _).imp ?_
      rintro _ after ⟨soundAfter, stopsAfter⟩
      rw [before.toSteady.contextOf, ← context] at stopsAfter
      exact ⟨soundAfter, before.quiet_trans (stopsAfter.mono recovers)⟩
  · rename_i usable
    have none : scheduler.pbdmaContexts [unit] = ∅ := by
      ext id
      simp [pbdmaContexts, not_not.mp usable]
    rw [none]
    exact ⟨soundCleared, quiet⟩

/-- Where tables are steady and the registers of PBDMA units are spared, what they stop stays. -/
theorem pbdmaContexts_eq (steady : Steady before after)
    (words : Bus.Spares touched before.machine.bus after.machine.bus)
    (apart : ∀ offset ∈ Device.reportRegisters, offset ∉ touched) {units : List Nat}
    (inRange : ∀ unit ∈ units, unit < 32)
    (spared : ∀ unit ∈ units, Device.pbdmaInterruptOffset unit ∉ touched) :
    after.pbdmaContexts units = before.pbdmaContexts units := by
  ext id
  refine exists_congr fun unit => and_congr_right fun mem => ?_
  have interrupts : after.pbdmaInterruptsOf unit = before.pbdmaInterruptsOf unit :=
    words _ (spared unit mem)
  rw [interrupts, pbdmaStatusOf_eq words apart (inRange unit mem)]
  refine and_congr_right fun _ => exists_congr fun target => and_congr_right fun _ => ?_
  rw [steady.contextOf]

/-- Servicing PBDMA units one after the other stops the contexts on them. -/
theorem yields_handleEach (sound : scheduler.Sound exact) {units : List Nat}
    (inRange : ∀ unit ∈ units, unit < 32) (nodup : units.Nodup) :
    (units.forM handlePbdma).Yields scheduler
      (fun _ after => after.Sound exact ∧
        Stops (Device.pbdmaRegisters units) (scheduler.pbdmaContexts units)
          (scheduler.pbdmaContexts units) scheduler after)
      fun _ _ => False := by
  refine yields_forM (fun done after => after.Sound exact ∧
    Stops (Device.pbdmaRegisters done) (scheduler.pbdmaContexts done)
      (scheduler.pbdmaContexts done) scheduler after) ?_ ?_
  · have none : scheduler.pbdmaContexts [] = ∅ := by
      ext id
      simp [pbdmaContexts]
    rw [none]
    exact ⟨sound, .refl _ scheduler⟩
  · rintro done unit rest current whole ⟨soundCurrent, stops⟩
    have small : unit < 32 := inRange unit (by simp [whole])
    have fresh : unit ∉ done := by
      rw [whole] at nodup
      intro early
      exact List.disjoint_of_nodup_append nodup early List.mem_cons_self
    have isOwn : ∀ other ∈ [unit], other = unit := fun _ => List.mem_singleton.mp
    have context : current.pbdmaContexts [unit] = scheduler.pbdmaContexts [unit] := by
      refine pbdmaContexts_eq stops.toSteady stops.words
        (fun _ => Device.pbdmaRegisters_disjoint done) (fun other mem => ?_) fun other mem => ?_
      · rw [isOwn other mem]
        exact small
      · rw [isOwn other mem]
        exact Device.pbdmaInterruptOffset_notMem fresh
    have more : scheduler.pbdmaContexts (done ++ [unit]) =
        scheduler.pbdmaContexts done ∪ scheduler.pbdmaContexts [unit] := by
      ext id
      simp only [pbdmaContexts, Set.mem_union, Set.mem_ofPred_eq, List.mem_append, or_and_right,
        exists_or]
    have earlier : Device.pbdmaRegisters done ⊆ Device.pbdmaRegisters (done ++ [unit]) :=
      fun offset inside => inside.imp_right fun ⟨other, mem, same⟩ =>
        ⟨other, List.mem_append_left _ mem, same⟩
    have later : Device.pbdmaRegisters [unit] ⊆ Device.pbdmaRegisters (done ++ [unit]) :=
      fun offset inside => inside.imp_right fun ⟨other, mem, same⟩ =>
        ⟨other, List.mem_append_right _ mem, same⟩
    refine (yields_handlePbdma soundCurrent small).imp ?_
    rintro _ after ⟨soundAfter, stopsAfter⟩
    rw [context] at stopsAfter
    rw [more]
    exact ⟨soundAfter, (stops.mono earlier).trans (stopsAfter.mono later)⟩

/-- The PBDMA units with a pending interrupt. -/
def pendingUnits (scheduler : Scheduler) : List Nat :=
  Simulation.setBits (scheduler.machine.bus.word Register.pbdmaPending)

/-- Servicing the pending PBDMA units stops the contexts on them. -/
theorem yields_handlePbdmas (sound : scheduler.Sound exact) :
    handlePbdmas.Yields scheduler
      (fun _ after => after.Sound exact ∧
        Stops Set.univ (scheduler.pbdmaContexts scheduler.pendingUnits)
          (scheduler.pbdmaContexts scheduler.pendingUnits) scheduler after)
      fun _ _ => False := by
  have inRange : ∀ unit ∈ scheduler.pendingUnits, unit < 32 :=
    fun unit mem => (Simulation.mem_setBits.mp mem).1
  have nodup : scheduler.pendingUnits.Nodup := List.nodup_range.filter _
  unfold handlePbdmas
  rw [yields_bind]
  refine (yields_drive sound (Set.empty_subset ∅) Device.serves_pendingPbdmas).imp ?_
  rintro _ read ⟨rfl, soundRead, stopsRead⟩
  change Yields (scheduler.pendingUnits.forM handlePbdma >>= fun _ => _) read _ _
  rw [yields_bind]
  refine (yields_handleEach soundRead inRange nodup).imp ?_
  rintro _ serviced ⟨soundServiced, stopsServiced⟩
  have context : read.pbdmaContexts scheduler.pendingUnits =
      scheduler.pbdmaContexts scheduler.pendingUnits :=
    pbdmaContexts_eq stopsRead.toSteady stopsRead.words (fun _ _ => Set.notMem_empty _) inRange
      fun _ _ => Set.notMem_empty _
  rw [context] at stopsServiced
  refine (yields_drive soundServiced (Set.subset_univ _) (Device.serves_clearPbdmas _)).imp ?_
  rintro _ after ⟨_, soundAfter, stopsAfter⟩
  have before := (stopsRead.mono (Set.empty_subset _)).quiet_trans stopsServiced
  exact ⟨soundAfter, (before.mono (Set.subset_univ _)).trans_quiet stopsAfter⟩

/-- A channel has a full count of events. -/
def EventsFull (scheduler : Scheduler) : Prop :=
  ∃ (id : Nat) (channel : Channel), scheduler.channels[id]? = some channel ∧ channel.EventsFull

/-- Stopping channels does not touch the counts of events. -/
theorem Steady.eventsFull (steady : Steady before after) (full : after.EventsFull) :
    before.EventsFull := by
  obtain ⟨id, channel, found, full⟩ := full
  obtain ⟨earlier, held, core⟩ := steady.symm.channel_found found
  have events := congrArg Channel.events core
  exact ⟨id, earlier, held, full.trans (Nat.succ_le_succ (Nat.le_of_eq events.symm))⟩

/-- Events were posted, to each channel one at most, and the bus may have changed. -/
structure Notified (before after : Scheduler) : Prop where
  config : after.config = before.config
  clock : after.clock = before.clock
  groups : after.groups = before.groups
  runlists : after.runlists = before.runlists
  freeChannels : after.freeChannels = before.freeChannels
  freeGroups : after.freeGroups = before.freeGroups
  channel : ∀ id : Nat, after.channels[id]?.map Channel.silent =
    before.channels[id]?.map Channel.silent
  events : ∀ {id : Nat} {channel changed : Channel}, before.channels[id]? = some channel →
    after.channels[id]? = some changed → changed.events ≤ channel.events + 1

namespace Notified

/-- Only the bus has changed. -/
theorem driven (scheduler : Scheduler) (machine : Machine) :
    Notified scheduler { scheduler with machine } := by
  refine ⟨rfl, rfl, rfl, rfl, rfl, rfl, fun _ => rfl, fun {_ channel _} found holds => ?_⟩
  cases found.symm.trans holds
  exact Nat.le_succ channel.events

/-- The bus has changed after events were posted. -/
theorem then_driven (notified : Notified before middle) (machine : Machine) :
    Notified before { middle with machine } :=
  { notified with }

/-- An event is posted to a channel to which none has been posted yet. -/
theorem post (notified : Notified before middle) (found : before.channels[id]? = some channel)
    (untouched : middle.channels[id]? = before.channels[id]?) :
    Notified before { middle with
      channels := middle.channels.modify id ({ · with events := channel.events + 1 }) } := by
  refine { notified with channel := fun other => ?_, events := fun {other} held changed
    wasFound isFound => ?_ }
  · refine Eq.trans ?_ (notified.channel other)
    rw [Array.getElem?_modify]
    split
    · cases middle.channels[other]? <;> rfl
    · rfl
  · rw [Array.getElem?_modify] at isFound
    split at isFound
    · rename_i own
      subst own
      rw [untouched, found, Option.map_some, Option.some.injEq] at isFound
      rw [found, Option.some.injEq] at wasFound
      subst isFound wasFound
      exact Nat.le_refl _
    · exact notified.events wasFound isFound

/-- A channel is the same but for its events. -/
theorem channel_found (notified : Notified before after)
    (found : before.channels[id]? = some channel) :
    ∃ changed, after.channels[id]? = some changed ∧ changed.silent = channel.silent := by
  have same := notified.channel id
  rw [found, Option.map_some, Option.map_eq_some_iff] at same
  exact same

/-- Events are no memberships. -/
theorem enrollment_eq (notified : Notified before after) :
    after.enrollment = before.enrollment := by
  have seats : ∀ id : Nat, after.channels[id]?.map Channel.seat =
      before.channels[id]?.map Channel.seat := by
    intro id
    have same := congrArg (Option.map Channel.seat) (notified.channel id)
    rw [Option.map_map, Option.map_map] at same
    exact same
  unfold enrollment activeOn groupActiveOn
  rw [notified.groups, notified.runlists, notified.freeChannels, notified.freeGroups]
  congr 1
  funext id
  exact seats id

/-- Posting events keeps a scheduler sound. -/
theorem sound (notified : Notified before after) (sound : before.Sound exact) :
    after.Sound exact := by
  have size : after.channels.size = before.channels.size := by
    refine Nat.le_antisymm ?_ ?_
    · by_contra more
      have past := notified.channel before.channels.size
      rw [Array.getElem?_eq_none (Nat.le_refl _), Option.map_none, Option.map_eq_none_iff,
        Array.getElem?_eq_none_iff] at past
      exact more past
    · by_contra fewer
      have past := notified.channel after.channels.size
      rw [Array.getElem?_eq_none (Nat.le_refl _), Option.map_none] at past
      rw [eq_comm, Option.map_eq_none_iff, Array.getElem?_eq_none_iff] at past
      exact fewer past
  exact sound.same (sound.shaped.same notified.config notified.clock size
    (congrArg Array.size notified.groups) notified.runlists) notified.enrollment_eq

end Notified

/-- An event can be posted to a channel unless its count is full. -/
theorem yields_notify (found : scheduler.channels[id]? = some channel) :
    (notify id).Yields scheduler
      (fun _ after => after = { scheduler with
        channels := scheduler.channels.modify id ({ · with events := channel.events + 1 }) })
      fun failure after => failure = .aborted .overflow ∧ channel.EventsFull ∧
        after = scheduler := by
  unfold notify channelAt changeChannel
  rw [yields_bind, yields_bind, yields_get, yields_entry found, yields_bind, yields_lift]
  unfold Checked.add64 Checked.fit
  split <;> rename_i sum <;> split at sum <;> cases sum
  · rfl
  · exact ⟨rfl, Nat.le_of_not_lt ‹_›, rfl⟩

/-- Events can be posted to all channels in use unless one of their counts is full. -/
theorem yields_notifyAll (scheduler : Scheduler) :
    notifyAll.Yields scheduler (fun _ after => Notified scheduler after)
      fun failure after => failure = .aborted .overflow ∧ scheduler.EventsFull ∧
        Notified scheduler after := by
  unfold notifyAll
  rw [yields_bind, yields_get]
  let posted (done : List Nat) (state : Scheduler) : Prop := Notified scheduler state ∧
    ∀ id ∉ done, state.channels[id]? = scheduler.channels[id]?
  have start : posted [] scheduler := ⟨.driven scheduler scheduler.machine, fun _ _ => rfl⟩
  refine (yields_forM posted start ?_).imp fun _ _ => And.left
  rintro done id rest state whole ⟨notified, untouched⟩
  have inRange : id < scheduler.channels.size := List.mem_range.mp (by simp [whole])
  have there : scheduler.channels[id]? = some scheduler.channels[id] :=
    Array.getElem?_eq_getElem inRange
  have fresh : id ∉ done := by
    have nodup := whole ▸ List.nodup_range (n := scheduler.channels.size)
    exact fun mem => (List.nodup_append.mp nodup).2.2 id mem id List.mem_cons_self rfl
  have found := (untouched id fresh).trans there
  have still : ∀ other ∉ done ++ [id], other ∉ done ∧ other ≠ id := by simp
  unfold channelAt
  rw [yields_bind, yields_bind, yields_get, yields_entry found]
  split
  · refine (yields_notify found).mono ?_ ?_
    · rintro _ _ rfl
      refine ⟨notified.post there (untouched id fresh), fun other outside => ?_⟩
      obtain ⟨before, apart⟩ := still other outside
      refine Eq.trans ?_ (untouched other before)
      exact Array.getElem?_modify.trans (if_neg (Ne.symm apart))
    · rintro _ _ ⟨rfl, full, rfl⟩
      exact ⟨rfl, ⟨id, _, there, full⟩, notified⟩
  · exact ⟨notified, fun other outside => untouched other (still other outside).1⟩

/-- What an interrupt stops, by the bits of its status word. -/
def interruptContexts (scheduler : Scheduler) (status : UInt32) : Set Nat :=
  {id | status &&& Interrupt.schedulerError ≠ 0 ∧ id ∈ scheduler.errorContexts} ∪
    {id | status &&& Interrupt.memoryFault ≠ 0 ∧
      id ∈ scheduler.blamedChannels none (scheduler.faultList none)} ∪
    {id | status &&& Interrupt.pbdma ≠ 0 ∧
      id ∈ scheduler.pbdmaContexts scheduler.pendingUnits}

/-- Service the sources of an interrupt that stop contexts. -/
def stopSources (status : UInt32) : Operation Scheduler Unit := do
  (if status &&& Interrupt.schedulerError ≠ 0 then handleSchedulerError else pure ())
  (if status &&& Interrupt.memoryFault ≠ 0 then handleFaults none >>= removeTargets else pure ())
  (if status &&& Interrupt.pbdma ≠ 0 then handlePbdmas else pure ())

/-- Events are posted after the sources that stop contexts. -/
theorem handleInterrupts_eq (status : UInt32) :
    handleInterrupts status = (do
      stopSources status
      (if status &&& Interrupt.channel ≠ 0 then notifyAll else pure ())
      onBus (Device.clearInterrupts status)
      return handledBits status) := by
  unfold handleInterrupts stopSources
  by_cases error : status &&& Interrupt.schedulerError = 0 <;>
    by_cases fault : status &&& Interrupt.memoryFault = 0 <;>
    by_cases pbdma : status &&& Interrupt.pbdma = 0 <;>
    by_cases channel : status &&& Interrupt.channel = 0 <;>
    simp [error, fault, pbdma, channel]

/-- What is done under a condition stops something under that condition. -/
theorem yields_under {act : Operation Scheduler Unit} {set : Set Nat} (condition : Prop)
    [Decidable condition] (sound : scheduler.Sound exact)
    (runs : act.Yields scheduler
      (fun _ after => after.Sound exact ∧ Stops touched set set scheduler after)
      fun _ _ => False) :
    (if condition then act else pure ()).Yields scheduler
      (fun _ after => after.Sound exact ∧
        Stops touched {id | condition ∧ id ∈ set} {id | condition ∧ id ∈ set} scheduler after)
      fun _ _ => False := by
  split
  · rename_i holds
    have all : {id | condition ∧ id ∈ set} = set := by
      ext id
      exact ⟨And.right, fun mem => ⟨holds, mem⟩⟩
    rw [all]
    exact runs
  · rename_i fails
    have none : {id | condition ∧ id ∈ set} = ∅ := by
      ext id
      exact ⟨fun mem => absurd mem.1 fails, False.elim⟩
    rw [none]
    exact ⟨sound, .refl _ scheduler⟩

/-- Servicing the sources of an interrupt stops what the registers say before. -/
theorem yields_stopSources (sound : scheduler.Sound exact) (status : UInt32) :
    (stopSources status).Yields scheduler
      (fun _ after => after.Sound exact ∧
        Stops Set.univ (scheduler.interruptContexts status) (scheduler.interruptContexts status)
          scheduler after)
      fun _ _ => False := by
  unfold stopSources
  rw [yields_bind]
  refine (yields_under _ sound (yields_handleSchedulerError sound)).imp ?_
  rintro _ first ⟨soundFirst, stopsFirst⟩
  have pending : first.faultList none = scheduler.faultList none := by
    unfold faultList
    rw [stopsFirst.words _ (Device.notMem_recoveryRegisters (by decide) (by decide))]
  have faults : first.blamedChannels none (first.faultList none) =
      scheduler.blamedChannels none (scheduler.faultList none) := by
    rw [pending]
    exact stopsFirst.toSteady.blamedChannels fun faultId mem =>
      blamed_eq sound.shaped stopsFirst.toSteady stopsFirst.words
        (fun _ => Device.recoveryRegisters_disjoint) none (Simulation.mem_setBits.mp mem).1
  rw [yields_bind]
  refine (yields_under _ soundFirst (yields_clearFaults soundFirst none)).imp ?_
  rintro _ second ⟨soundSecond, stopsSecond⟩
  rw [faults] at stopsSecond
  have both := (stopsFirst.mono (Device.recoveryRegisters_subset none)).trans stopsSecond
  have apart : ∀ offset, 0x2370 ≤ offset → offset ≠ Register.schedulerDisable →
      offset ≠ Register.faultPending → offset ≠ Register.faultHalt →
      offset ∉ Device.faultRegisters none := by
    rintro offset past disable isPending isHalt (inside | ⟨_, same | same⟩)
    · exact Device.notMem_recoveryRegisters past disable inside
    · exact isPending same
    · exact isHalt same
  have units : second.pendingUnits = scheduler.pendingUnits := by
    unfold pendingUnits
    rw [both.words _ (apart _ (by decide) (by decide) (by decide) (by decide))]
  have contexts : second.pbdmaContexts second.pendingUnits =
      scheduler.pbdmaContexts scheduler.pendingUnits := by
    rw [units]
    refine pbdmaContexts_eq both.toSteady both.words
      (fun _ => Device.faultRegisters_disjoint none)
      (fun unit mem => (Simulation.mem_setBits.mp mem).1) fun unit _ => ?_
    have past : 0x40108 ≤ Device.pbdmaInterruptOffset unit := Nat.le_add_right _ _
    apply apart
    · omega
    · unfold Register.schedulerDisable
      omega
    · unfold Register.faultPending
      omega
    · unfold Register.faultHalt
      omega
  refine (yields_under _ soundSecond (yields_handlePbdmas soundSecond)).imp ?_
  rintro _ after ⟨soundAfter, stopsAfter⟩
  rw [contexts] at stopsAfter
  exact ⟨soundAfter, (both.mono (Set.subset_univ _)).trans stopsAfter⟩

/-- Servicing an interrupt stops what the registers say before, and posts events. It fails only
where an event does not fit its count. -/
theorem yields_handleInterrupts (sound : scheduler.Sound exact) (status : UInt32) :
    (handleInterrupts status).Yields scheduler
      (fun _ after => ∃ stopped, stopped.Sound exact ∧
        Stops Set.univ (scheduler.interruptContexts status) (scheduler.interruptContexts status)
          scheduler stopped ∧ Notified stopped after)
      (fun failure after => (failure = .aborted .overflow ∧ scheduler.EventsFull) ∧
        ∃ stopped, stopped.Sound exact ∧
          Stops Set.univ (scheduler.interruptContexts status) (scheduler.interruptContexts status)
            scheduler stopped ∧ Notified stopped after) := by
  have acknowledges : ∀ stopped state : Scheduler, Notified stopped state →
      (do
        onBus (Device.clearInterrupts status)
        return handledBits status : Operation Scheduler UInt32).Yields state
        (fun _ after => Notified stopped after) fun _ _ => False := by
    intro stopped state posted
    rw [yields_bind]
    refine (yields_onBus (Device.serves_clearInterrupts status)).imp ?_
    rintro _ after ⟨_, bus, rfl, _⟩
    exact posted.then_driven _
  rw [handleInterrupts_eq, yields_bind]
  refine (yields_stopSources sound status).mono ?_ fun _ _ => False.elim
  rintro _ stopped ⟨soundStopped, stops⟩
  rw [yields_bind]
  have posts : (if status &&& Interrupt.channel ≠ 0 then notifyAll else pure ()).Yields stopped
      (fun _ after => Notified stopped after)
      fun failure after => failure = .aborted .overflow ∧ stopped.EventsFull ∧
        Notified stopped after := by
    split
    · exact yields_notifyAll stopped
    · exact .driven stopped stopped.machine
  refine posts.mono ?_ ?_
  · intro _ notified posted
    refine (acknowledges stopped notified posted).mono ?_ fun _ _ => False.elim
    exact fun _ _ last => ⟨stopped, soundStopped, stops, last⟩
  · rintro _ _ ⟨rfl, full, posted⟩
    exact ⟨⟨rfl, stops.toSteady.eventsFull full⟩, stopped, soundStopped, stops, posted⟩

end Scheduler

end GpuSched
