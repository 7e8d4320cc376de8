import GpuSched.Proofs.Register.Resets
import GpuSched.Proofs.Scheduler.Traces

/-!
# Engines that are reset

`Restarts` names the engines that a step resets, in the order in which it does so; it is read off
the record of accesses, so a step that restarts no engine has not touched the unit enables. Only the
service of faults and the running of resets that waited restart engines. To ask the hardware and to
wait for it is calm: the tables stay as they are as well. So an update restarts nothing unless it
waits, and neither does taking channels off their runlists.
-/
namespace GpuSched.Scheduler

open Operation

variable {before middle after : Scheduler} {list : Nat} {engines others : List Engine}
  {α : Type}

/-- Just these engines are reset, one after the other. -/
def Restarts (engines : List Engine) (before after : Scheduler) : Prop :=
  Bus.Cycles (engines.reverse.map (·.reset)) before.machine.bus after.machine.bus

/-- Engines are reset and then others. -/
theorem Restarts.trans (first : Restarts engines before middle)
    (later : Restarts others middle after) : Restarts (engines ++ others) before after := by
  unfold Restarts
  rw [List.reverse_append, List.map_append]
  exact Bus.Cycles.trans first later

/-- An engine is reset after a step that resets none. -/
theorem Restarts.after_none (first : Restarts [] before middle)
    (later : Restarts engines middle after) : Restarts engines before after := first.trans later

/-- No engine is reset after some were. -/
theorem Restarts.then_none (first : Restarts engines before middle)
    (later : Restarts [] middle after) : Restarts engines before after := by
  have whole := first.trans later
  rwa [List.append_nil] at whole

instance : IsPreorder Scheduler (Restarts []) where
  refl _ := ⟨[], rfl, .nil⟩
  trans _ _ _ one two := one.after_none two

/-- Where the hardware is left alone, no engine is reset. -/
theorem restarts_of_same (same : after.machine = before.machine) : Restarts [] before after := by
  unfold Restarts
  rw [same]
  exact ⟨[], rfl, .nil⟩

/-- Nothing but the hardware changes. -/
def OnlyHardware (before after : Scheduler) : Prop :=
  after = { before with machine := { before.machine with bus := after.machine.bus } }

/-- Where nothing but the hardware changes, the channels stay as they are. -/
theorem OnlyHardware.channels (only : OnlyHardware before after) :
    after.channels = before.channels := by
  unfold OnlyHardware at only
  rw [only]

/-- Where nothing but the hardware changes, the groups stay as they are. -/
theorem OnlyHardware.groups (only : OnlyHardware before after) :
    after.groups = before.groups := by
  unfold OnlyHardware at only
  rw [only]

/-- The hardware changes and changes again. -/
theorem OnlyHardware.trans (one : OnlyHardware before middle) (two : OnlyHardware middle after) :
    OnlyHardware before after := by
  unfold OnlyHardware at *
  rw [two, one]

/-- An engine is reset. -/
theorem yields_restarts {engine : Engine} (inWord : engine.reset < 32) (scheduler : Scheduler) :
    (resetEngine engine).Yields scheduler
      (fun _ after => OnlyHardware scheduler after ∧ Restarts [engine] scheduler after)
      fun _ _ => False := by
  unfold resetEngine onBus
  rw [yields_focus]
  exact (Device.cycles_resetUnit inWord scheduler.machine.bus).imp
    fun _ bus cycles => ⟨rfl, cycles⟩

/-- The hardware is asked: no engine is reset, and nothing else changes. -/
structure Calm (before after : Scheduler) : Prop where
  only : OnlyHardware before after
  restarts : Restarts [] before after

instance : IsPreorder Scheduler Calm where
  refl _ := ⟨rfl, Std.Refl.refl _⟩
  trans _ _ _ one two := ⟨one.only.trans two.only, one.restarts.after_none two.restarts⟩

/-- What is calm resets no engine. -/
theorem restarts_of_calm {operation : Operation Scheduler α} (calm : Respects Calm operation) :
    Respects (Restarts []) operation :=
  calm.mono fun _ _ => Calm.restarts

/-- The hardware is driven without a reset. -/
theorem calm_onBus {operation : Operation Bus α} (cycles : Respects (Bus.Cycles []) operation) :
    Respects Calm (onBus operation) :=
  respects_focus cycles fun _ _ hardware => ⟨rfl, hardware⟩

/-- The status word of an engine is read. -/
theorem calm_engineStatus (engine : Nat) : Respects Calm (engineStatus engine) :=
  (calm_onBus (Bus.cycles_readSlot (by decide) engine)).bind fun _ => respects_pure _

/-- The hardware is waited for. -/
theorem calm_waitFor (timeout : Nat) {ask : Operation Bus Bool}
    (asks : Respects (Bus.Cycles []) ask) : Respects Calm (waitFor timeout ask) := by
  refine respects_get.bind fun read => ?_
  split
  · exact respects_pure _
  · exact calm_onBus (Backoff.respects_waitBy asks _ _ _)

/-- A list is waited for. -/
theorem calm_waitRunlist (list : Nat) : Respects Calm (waitRunlist list) :=
  respects_get.bind fun _ => calm_waitFor _ ((Device.cycles_runlistPending list).map not)

/-- Disable bits of runlists are set and cleared. -/
theorem calm_setSchedulerDisabled (runlists : UInt32) (disabled : Bool) :
    Respects Calm (setSchedulerDisabled runlists disabled) := by
  unfold setSchedulerDisabled
  split
  · exact respects_pure _
  · exact calm_onBus (Device.cycles_setSchedulerDisabled runlists disabled)

/-- The engines that run a target are found by reading. -/
theorem calm_enginesOn (target : Target) : Respects Calm (enginesOn target) := by
  refine respects_get.bind fun read => ?_
  refine (respects_filterM (fun engine => ?_) _).bind fun engines => respects_lift _
  exact (calm_engineStatus engine.id).bind fun _ => respects_pure _

/-- A channel is changed. -/
theorem restarts_changeChannel (id : Nat) (change : Channel → Channel) :
    Respects (Restarts []) (changeChannel id change) :=
  respects_modify fun _ => restarts_of_same rfl

/-- The channels of a target are marked faulted. -/
theorem restarts_markTargetFaulted (target : Target) (reason : FaultReason) :
    Respects (Restarts []) (markTargetFaulted target reason) := by
  refine respects_get.bind fun read => respects_foldlM (fun any id => ?_) _ false
  refine Respects.bind ?_ fun _ => respects_pure _
  refine respects_get.bind fun read => ?_
  split
  · exact respects_pure _
  · split
    · exact respects_pure _
    · exact (restarts_changeChannel id _).bind fun _ => respects_pure _

/-- The channels of some targets are taken out of the active set of a runlist. -/
theorem restarts_dropTargets (list : Nat) (targets : List Target) :
    Respects (Restarts []) (dropTargets list targets) :=
  (shifts_dropTargets list targets).mono fun _ _ shifts => restarts_of_same shifts.machine

/-- The steps of an update that does not wait respect a relation. -/
structure Brief (list : Nat) (related : Scheduler → Scheduler → Prop) : Prop where
  shifts : ∀ before after, Shifts before after → related before after
  refills : ∀ before after, Refills list before after → related before after
  submits : ∀ (scheduler : Scheduler) (runlist : Runlist) (count : Nat),
    scheduler.runlists.find? list = some runlist → related scheduler
      (onBus (Device.submitRunlist list runlist.spare.physical count) scheduler).2

namespace Brief

variable {related : Scheduler → Scheduler → Prop} [IsPreorder Scheduler related]

/-- A list is written and handed over. -/
theorem handAny (brief : Brief list related) (suspend : Bool) :
    Respects related (Scheduler.handAny list suspend) := by
  refine Respects.bind ?_ fun count => respects_runlist_bind fun scheduler runlist found => ?_
  · cases suspend with
    | true => exact respects_pure _
    | false => exact (refills_writeList list).mono brief.refills
  · exact related_bind (brief.submits scheduler runlist count found) fun _ _ _ => Std.Refl.refl _

/-- An update goes as far as its list being handed over. -/
theorem handUpdate (brief : Brief list related) (id : Option Nat) (add : Bool) :
    Respects related (Scheduler.handUpdate list id add) := by
  refine (reads_runlist list).respects.bind fun _ => ?_
  cases id with
  | none => exact (brief.handAny _).map some
  | some id =>
    refine ((shifts_setActive list id add).mono brief.shifts).bind fun changed => ?_
    split
    · exact (brief.handAny false).map some
    · exact respects_pure _

/-- An update does not wait. -/
theorem updateRunlist (brief : Brief list related) (id : Option Nat) (add : Bool) :
    Respects related (Scheduler.updateRunlist list id add false) := by
  rw [updateRunlist_eq]
  refine (brief.handUpdate id add).bind fun handed => ?_
  cases handed with
  | none => exact respects_pure _
  | some count => exact (refills_swapBuffers list count).mono brief.refills

end Brief

/-- An update resets no engine beside its wait. -/
theorem brief_restarts (list : Nat) : Brief list (Restarts []) where
  shifts _ _ shifts := restarts_of_same shifts.machine
  refills _ _ refills := restarts_of_same refills.machine
  submits scheduler _ count _ :=
    (calm_onBus (Device.cycles_submitRunlist list _ count) scheduler).restarts

/-- An update tends, beside its wait. -/
theorem brief_tends (list : Nat) : Brief list (Within Fit Tends) where
  shifts _ _ shifts fit := ⟨fit.same shifts.tends.config shifts.tends.listed, shifts.tends⟩
  refills _ _ refills fit := ⟨fit.same refills.tends.config refills.tends.listed, refills.tends⟩
  submits scheduler runlist count found fit := by
    have inRange : list < Register.runlistCount := fit.inRange list (contains_of_find? found)
    have tends := tends_submitRunlist inRange runlist.spare.physical count scheduler
    exact ⟨fit.same tends.config tends.listed, tends⟩

/-- Channels are taken off their runlists without a reset. -/
theorem restarts_removeTargets (targets : List Target) :
    Respects (Restarts []) (removeTargets targets) := by
  refine respects_forM (fun target => respects_get.bind fun read => ?_) targets
  refine respects_forM (fun id => (reads_channelAt id).respects.bind fun channel => ?_) _
  exact ((brief_restarts channel.runlist).updateRunlist (some id) false).disregard

end GpuSched.Scheduler
