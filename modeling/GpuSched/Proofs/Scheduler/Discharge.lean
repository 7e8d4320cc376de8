import GpuSched.Proofs.Scheduler.Deferrals
import GpuSched.Proofs.Scheduler.Release
import GpuSched.Proofs.Scheduler.Restarts

/-!
# Resets that a release runs

The release of a channel runs the resets that wait for the channel or for its group, each once, in
the order in which they were put off. What it does before and after that, taking the channel off its
runlist and freeing its slot, resets no engine and changes no disable bit, as long as the runlist is
picked up in time. Every reset that waits names an engine of the configuration, and only one, so the
list of resets that are due tells just which engines are reset.
-/
namespace GpuSched

open Operation

namespace Device

open Bus

/-- A channel is disabled. -/
theorem cycles_disableChannel (channel : Nat) : Respects (Cycles []) (disableChannel channel) :=
  (cycles_readSlot (by decide) channel).bind fun _ => cycles_writeSlot (by decide) channel _

/-- The instance block of a channel is taken away. -/
theorem cycles_unbindChannel (channel : Nat) : Respects (Cycles []) (unbindChannel channel) :=
  cycles_writeSlot (by decide) channel 0

end Device

namespace Scheduler

variable {exact : Prop} {scheduler before middle reset after : Scheduler} {list id : Nat}
  {group : Option Nat} {channel : Channel} {α : Type}

/-- A reset that waits either waited before or is that of an engine there is. -/
structure Files (before after : Scheduler) : Prop where
  config : after.config = before.config
  filed : ∀ reset ∈ after.deferred, reset ∈ before.deferred ∨
    ∃ engine ∈ before.config.engines, engine.id = reset.engine

instance : IsPreorder Scheduler Files where
  refl _ := ⟨rfl, fun _ => .inl⟩
  trans before middle after one two := by
    refine ⟨two.config.trans one.config, fun reset mem => ?_⟩
    rcases two.filed reset mem with earlier | named
    · exact one.filed reset earlier
    · rw [one.config] at named
      exact .inr named

/-- Where no reset is put off, none is filed. -/
theorem files_of_same (config : after.config = before.config)
    (deferred : after.deferred = before.deferred) : Files before after :=
  ⟨config, fun _ mem => .inl (deferred ▸ mem)⟩

/-- Servicing faults puts off resets of engines there are. -/
theorem Defers.files {forced : Bool} (defers : Defers forced before after) : Files before after :=
  ⟨defers.config, fun reset mem => (defers.putOff reset mem).imp_right
    fun ⟨_, engine, isEngine, number, _⟩ => ⟨engine, isEngine, number⟩⟩

/-- Recovery files resets of engines there are. -/
theorem recovers_files : Script.Recovers (Within Fit Files) :=
  have weakens : ∀ before after, Within Fit (Defers false) before after →
      Within Fit Files before after :=
    fun _ _ within fit => ⟨(within fit).1, (within fit).2.files⟩
  { idles := fun before after idles => weakens _ _ (recovers_defers.idles before after idles)
    faults := fun forced => (recovers_defers.faults forced).mono weakens
    removes := fun list id => (recovers_defers.removes list id).mono weakens }

/-- Running resets files none. -/
theorem files_runDeferredResets (id : Nat) (group : Option Nat) :
    Respects (Within Fit Files) (runDeferredResets id group) := by
  intro scheduler fit
  refine ⟨(drives_runDeferredResets id group scheduler).toStays.fit fit, Yields.holds ?_⟩
  refine (yields_ran fit id group).mono (fun _ _ ran => ?_) fun _ _ idles => ?_
  · exact ⟨ran.config, fun reset mem => .inl ((ran.left reset).mp mem).1⟩
  · exact files_of_same idles.config idles.deferred

/-- Every reset that waits is that of an engine there is. -/
def Named (scheduler : Scheduler) : Prop :=
  ∀ reset ∈ scheduler.deferred, ∃ engine ∈ scheduler.config.engines, engine.id = reset.engine

/-- The resets that are filed go on naming engines. -/
theorem Files.named (files : Files before after) (named : before.Named) : after.Named := by
  intro reset mem
  rw [files.config]
  exact (files.filed reset mem).elim (named reset) fun isNew => isNew

/-- No engine is reset, and the resets that wait and the disable bits stay. -/
structure Passes (before after : Scheduler) : Prop where
  config : after.config = before.config
  deferred : after.deferred = before.deferred
  disabled : after.machine.bus.word Register.schedulerDisable =
    before.machine.bus.word Register.schedulerDisable
  restarts : Restarts [] before after

instance : IsPreorder Scheduler Passes where
  refl _ := ⟨rfl, rfl, rfl, Std.Refl.refl _⟩
  trans _ _ _ one two := ⟨two.config.trans one.config, two.deferred.trans one.deferred,
    two.disabled.trans one.disabled, IsTrans.trans _ _ _ one.restarts two.restarts⟩

/-- Where it is not the hardware that changes, no engine is reset. -/
theorem passes_of_same (config : after.config = before.config)
    (deferred : after.deferred = before.deferred) (machine : after.machine = before.machine) :
    Passes before after :=
  ⟨config, deferred, congrArg (·.bus.word Register.schedulerDisable) machine,
    restarts_of_same machine⟩

/-- An update up to its wait, and what follows a wait that was answered. -/
theorem brief_passes (list : Nat) : Brief list (Within Fit Passes) where
  shifts _ _ shifts fit := ⟨fit.same shifts.tends.config shifts.tends.listed,
    passes_of_same shifts.config shifts.deferred shifts.machine⟩
  refills _ _ refills fit := ⟨fit.same refills.tends.config refills.tends.listed,
    passes_of_same refills.config refills.deferred refills.machine⟩
  submits scheduler runlist count found fit := by
    obtain ⟨fitAfter, tends⟩ := (brief_tends list).submits scheduler runlist count found fit
    exact ⟨fitAfter, tends.config, tends.deferred, tends.hardware.disabled,
      (brief_restarts list).submits scheduler runlist count found⟩

/-- A list is waited for. -/
theorem passes_waitRunlist (list : Nat) : Respects (Within Fit Passes) (waitRunlist list) := by
  intro scheduler fit
  have idles := idles_waitRunlist list scheduler
  exact ⟨idles.toStays.fit fit, idles.config, idles.deferred, idles.disabled,
    restarts_of_calm (calm_waitRunlist list) scheduler⟩

/-- A list that an update hands over is one that a withdrawal hands over. -/
theorem withdraw_of_handUpdate {count : Nat}
    (run : handUpdate list (some id) false scheduler = (.ok (some count), after)) :
    withdraw list id scheduler = (.ok true, after) := by
  have looks := reads_runlist list scheduler
  unfold handUpdate at run
  unfold withdraw
  rw [run_bind] at run
  rcases look : Scheduler.runlist list scheduler with ⟨refused | runlist, looked⟩
  · rw [look] at run
    cases run
  · obtain rfl : looked = scheduler := looks.of_ok look
    rw [look] at run
    dsimp only at run
    rw [run_bind] at run ⊢
    rcases change : setActive list id false looked with ⟨failure | changed, middle⟩
    · rw [change] at run
      cases run
    · rw [change] at run
      cases changed with
      | false => cases run
      | true =>
        change (some <$> handList list) middle = _ at run
        change (handList list >>= fun _ => pure true) middle = _
        rw [← bind_pure_comp, run_bind] at run
        rw [run_bind]
        rcases gives : handList list middle with ⟨failure | length, handed⟩
        · rw [gives] at run
          cases run
        · rw [gives] at run
          cases run
          rfl

/-- A channel is taken off its runlist, and the hardware picks the list up in time: beside the wait
nothing happens that an update without a wait does not do. -/
theorem related_withdrawn {related : Scheduler → Scheduler → Prop} [IsPreorder Scheduler related]
    (brief : Brief list related) (waits : Respects related (waitRunlist list))
    (inTime : scheduler.WithdrawsInTime list id) :
    related scheduler (updateRunlist list (some id) false true scheduler).2 := by
  rw [updateRunlist_eq]
  refine related_bind (brief.handUpdate (some id) false scheduler) fun answer handed run => ?_
  cases answer with
  | none => exact Std.Refl.refl _
  | some count =>
    have picked := inTime handed (withdraw_of_handUpdate run)
    have waited := waits handed
    rcases wait : waitRunlist list handed with ⟨answer, after⟩
    rw [wait] at picked waited
    obtain rfl : answer = .ok true := picked
    have awaits : awaitPickup list handed = (.ok (), after) := by
      unfold awaitPickup
      rw [run_bind_of_ok wait]
      rfl
    change related handed ((awaitPickup list >>= fun _ => swapBuffers list count) handed).2
    rw [run_bind_of_ok awaits]
    exact IsTrans.trans _ _ _ waited
      ((refills_swapBuffers list count).mono brief.refills after)

/-- A channel leaves its group and its slot. -/
theorem passes_leaveSlot (id : Nat) (group : Option Nat) :
    Respects Passes (leaveSlot id group) := by
  have frees : Respects (Restarts []) (freeSlot id) := by
    refine (restarts_of_calm (calm_onBus (Device.cycles_disableChannel id))).bind fun _ => ?_
    refine (restarts_of_calm (calm_onBus (Device.cycles_unbindChannel id))).bind fun _ => ?_
    refine (restarts_changeChannel id Channel.reset).bind fun _ => ?_
    exact respects_modify fun _ => restarts_of_same rfl
  have leaves : ∀ groupId, Respects (Restarts []) (removeMember id groupId) := by
    intro groupId
    have changes : ∀ change : Group → Group, Respects (Restarts []) (changeGroup groupId change) :=
      fun _ => respects_modify fun _ => restarts_of_same rfl
    refine (reads_get.bind fun read => reads_entry read.groups groupId).respects.bind fun _ => ?_
    exact (changes _).bind fun _ => restarts_changeChannel id _
  have restarts : Respects (Restarts []) (leaveSlot id group) := by
    cases group with
    | none => exact frees
    | some groupId => exact (leaves groupId).bind fun _ => frees
  intro scheduler
  have alters := alters_leaveSlot id group scheduler
  exact ⟨alters.config, alters.deferred, alters.disabled, restarts scheduler⟩

instance (id : Nat) (group : Option Nat) (reset : DeferredReset) : Decidable (Due id group reset) :=
  inferInstanceAs (Decidable (_ ∨ _))

/-- The resets that the release of a channel runs. -/
def due (scheduler : Scheduler) (id : Nat) (group : Option Nat) : List DeferredReset :=
  scheduler.deferred.filter (Due id group ·)

/-- The engine that a reset that waits is of. -/
def ResetOf (scheduler : Scheduler) (reset : DeferredReset) (engine : Engine) : Prop :=
  engine ∈ scheduler.config.engines ∧ engine.id = reset.engine

instance (scheduler : Scheduler) (reset : DeferredReset) (engine : Engine) :
    Decidable (scheduler.ResetOf reset engine) :=
  inferInstanceAs (Decidable (_ ∧ _))

/-- The resets that are due have been run, and nothing else has become of resets and of disable
bits. -/
structure Discharged (id : Nat) (group : Option Nat) (before after : Scheduler) : Prop where
  config : after.config = before.config
  /-- The other resets wait on, in the same order. -/
  deferred : after.deferred = before.deferred.filter (¬Due id group ·)
  /-- For each reset that was due its engine is reset, in the order of the list, and no other
  engine is. -/
  resets : ∃ engines, List.Forall₂ before.ResetOf (before.due id group) engines ∧
    Restarts engines before after
  /-- The runlist of an engine that is reset stays disabled only if another reset waits for one of
  its engines. -/
  lifted : ∀ reset ∈ before.due id group, ∀ engine, before.ResetOf reset engine →
    (after.Disables engine.runlist ↔
      before.Disables engine.runlist ∧ after.Owes engine.runlist)
  /-- Every other disable bit stays. -/
  others : ∀ list, (∀ reset ∈ before.due id group, ∀ engine, before.ResetOf reset engine →
    engine.runlist ≠ list) → (after.Disables list ↔ before.Disables list)

/-- A reset that is due waits. -/
theorem mem_due {reset : DeferredReset} : reset ∈ scheduler.due id group ↔
    reset ∈ scheduler.deferred ∧ Due id group reset := by
  unfold due
  rw [List.mem_filter, decide_eq_true_iff]

/-- The engines of a fit scheduler that have a number are one engine. -/
theorem Fit.filter_eq (fit : scheduler.Fit) {engine : Engine}
    (mem : engine ∈ scheduler.config.engines) :
    scheduler.config.engines.filter (·.id = engine.id) = [engine] := by
  have distinct : scheduler.config.engines.Nodup :=
    List.Nodup.of_map _ (Config.ids_nodup fit.accepted)
  refine List.perm_singleton.mp
    ((List.perm_ext_iff_of_nodup (distinct.filter _) (List.nodup_singleton engine)).mpr ?_)
  intro other
  rw [List.mem_filter, decide_eq_true_iff, List.mem_singleton]
  constructor
  · rintro ⟨isEngine, number⟩
    exact Config.engine_eq fit.accepted isEngine mem number
  · rintro rfl
    exact ⟨mem, rfl⟩

/-- Resets that name engines come with one engine each. -/
theorem forall₂_resetOf (fit : scheduler.Fit) {resets : List DeferredReset}
    (named : ∀ reset ∈ resets, ∃ engine ∈ scheduler.config.engines, engine.id = reset.engine) :
    List.Forall₂ scheduler.ResetOf resets
      (resets.flatMap fun reset => scheduler.config.engines.filter (·.id = reset.engine)) := by
  induction resets with
  | nil => exact .nil
  | cons reset rest ih =>
    obtain ⟨engine, isEngine, number⟩ := named reset List.mem_cons_self
    rw [List.flatMap_cons, ← number, fit.filter_eq isEngine]
    exact .cons ⟨isEngine, number⟩ (ih fun other mem => named other (List.mem_cons_of_mem _ mem))

/-- Engines are reset one after the other. -/
theorem yields_restartsEach {engines : List Engine} (inWord : ∀ engine ∈ engines, engine.reset < 32)
    (scheduler : Scheduler) :
    (engines.forM resetEngine).Yields scheduler
      (fun _ after => OnlyHardware scheduler after ∧ Restarts engines scheduler after)
      fun _ _ => False := by
  refine yields_forM (fun done after => OnlyHardware scheduler after ∧
    Restarts done scheduler after) ⟨rfl, Std.Refl.refl _⟩ ?_
  rintro done engine rest middle rfl ⟨only, restarts⟩
  refine (yields_restarts (inWord engine (by simp)) middle).imp ?_
  exact fun _ after ⟨onlyNext, next⟩ => ⟨only.trans onlyNext, restarts.trans next⟩

/-- The resets that are due are run: their engines are reset, and the other resets wait on. -/
theorem yields_restartsDue (fit : scheduler.Fit) (id : Nat) (group : Option Nat) :
    (runDeferredResets id group).Yields scheduler
      (fun _ after => after.deferred = scheduler.deferred.filter (¬Due id group ·) ∧
        Restarts ((scheduler.due id group).flatMap fun reset =>
          scheduler.config.engines.filter (·.id = reset.engine)) scheduler after)
      fun _ _ => False := by
  have isDue : (scheduler.deferred.filter fun reset =>
      reset.target = .channel id || some reset.target = group.map .group) =
      scheduler.due id group :=
    List.filter_congr fun reset _ => (Bool.decide_or _ _).symm
  have left : (scheduler.deferred.filter (!(scheduler.due id group).contains ·)) =
      scheduler.deferred.filter (¬Due id group ·) := by
    refine List.filter_congr fun reset waits => ?_
    rw [List.contains_eq_mem, decide_not]
    exact congrArg (! ·) (decide_eq_decide.mpr (mem_due.trans (and_iff_right waits)))
  unfold runDeferredResets
  rw [yields_bind, yields_get]
  dsimp only
  rw [isDue]
  split
  · rename_i noneDue
    have empty : scheduler.due id group = [] := List.isEmpty_iff.mp noneDue
    rw [← left, empty]
    exact ⟨(List.filter_eq_self.mpr fun _ _ => rfl).symm, restarts_of_same rfl⟩
  · have fits : ∀ engine ∈ (scheduler.due id group).flatMap fun reset =>
        scheduler.config.engines.filter (·.id = reset.engine), Config.EngineFits engine := by
      intro engine mem
      obtain ⟨_, _, found⟩ := List.mem_flatMap.mp mem
      exact fit.engineFits (List.mem_filter.mp found).1
    generalize ((scheduler.due id group).flatMap fun reset =>
      scheduler.config.engines.filter (·.id = reset.engine)) = engines at fits ⊢
    have small : ∀ runlist ∈ engines.map (·.runlist), runlist < 32 := by
      intro runlist mem
      obtain ⟨engine, isOne, rfl⟩ := List.mem_map.mp mem
      exact (fits engine isOne).runlist.trans (by decide)
    obtain ⟨runlists, masks, -⟩ := maskOf_eq small
    rw [yields_bind]
    refine (yields_restartsEach (fun engine mem => (fits engine mem).reset) scheduler).mono ?_
      fun _ _ => False.elim
    rintro _ restarted ⟨only, restarts⟩
    have waiting : restarted.deferred = scheduler.deferred := by
      unfold OnlyHardware at only
      rw [only]
    have fitLeft : Fit { restarted with
        deferred := scheduler.deferred.filter (¬Due id group ·) } := by
      unfold OnlyHardware at only
      rw [only]
      exact fit.same rfl rfl
    have resumes : Respects (Restarts []) (do
        let held ← (← get).deferredRunlists
        setSchedulerDisabled (runlists &&& ~~~held) false : Operation Scheduler Unit) :=
      respects_get.bind fun read => (respects_lift _).bind fun held =>
        restarts_of_calm (calm_setSchedulerDisabled _ false)
    rw [yields_bind, masks, yields_lift_ok, yields_bind, yields_modify, waiting, left]
    refine ((yields_resumed fitLeft runlists).also resumes).imp ?_
    exact fun _ after ⟨resumed, quiet⟩ => ⟨resumed.deferred, restarts.then_none quiet⟩

/-- The resets of a channel that is released, and those of its group, are discharged. -/
theorem yields_discharged (fit : scheduler.Fit) (named : scheduler.Named) (id : Nat)
    (group : Option Nat) :
    (runDeferredResets id group).Yields scheduler
      (fun _ after => Discharged id group scheduler after) fun _ _ => False := by
  refine ((yields_restartsDue fit id group).and (yields_ran fit id group)).mono ?_
    fun _ _ => And.left
  rintro _ after ⟨⟨deferred, restarts⟩, ran⟩
  have engines : List.Forall₂ scheduler.ResetOf (scheduler.due id group) _ :=
    forall₂_resetOf fit fun reset mem => named reset (mem_due.mp mem).1
  refine ⟨ran.config, deferred, ⟨_, engines, restarts⟩, fun reset mem engine isReset => ?_,
    fun list apart => ?_⟩
  · obtain ⟨waits, isDue⟩ := mem_due.mp mem
    rw [ran.bits]
    exact and_congr_right fun _ => ⟨fun owes => owes
      ⟨reset, waits, isDue, engine, isReset.1, isReset.2, rfl⟩, fun owes _ => owes⟩
  · rw [ran.bits]
    refine and_iff_left ?_
    rintro ⟨reset, waits, isDue, engine, isEngine, number, here⟩
    exact absurd here (apart reset (mem_due.mpr ⟨waits, isDue⟩) engine ⟨isEngine, number⟩)

/-- Where the disable bits stay, a runlist is disabled just when it was. -/
theorem Passes.disables_iff (passes : Passes before after) :
    after.Disables list ↔ before.Disables list := by
  unfold Disables
  rw [passes.disabled]

/-- What happens around the resets does not count. -/
theorem Discharged.around (first : Passes before middle)
    (discharged : Discharged id group middle reset) (last : Passes reset after) :
    Discharged id group before after := by
  have due : middle.due id group = before.due id group := by
    unfold Scheduler.due
    rw [first.deferred]
  have resetOf : middle.ResetOf = before.ResetOf := by
    unfold ResetOf
    rw [first.config]
  have owes : ∀ list, after.Owes list ↔ reset.Owes list :=
    fun _ => owes_iff last.config last.deferred
  obtain ⟨config, deferred, ⟨engines, each, restarts⟩, lifted, others⟩ := discharged
  rw [due, resetOf] at each
  rw [due, resetOf] at lifted
  rw [due, resetOf] at others
  refine ⟨last.config.trans (config.trans first.config), ?_,
    ⟨engines, each, (first.restarts.after_none restarts).then_none last.restarts⟩,
    fun other mem engine isReset => ?_, fun list apart => ?_⟩
  · rw [last.deferred, deferred, first.deferred]
  · rw [last.disables_iff, lifted other mem engine isReset, first.disables_iff, owes]
  · rw [last.disables_iff, others list apart, first.disables_iff]

/-- Releasing a channel discharges the resets that wait for it and for its group, with its list
picked up in time. -/
theorem discharges_releaseChannel (fit : scheduler.Fit) (named : scheduler.Named)
    (found : scheduler.channels[id]? = some channel)
    (inTime : scheduler.WithdrawsInTime channel.runlist id) :
    (releaseChannel id).Yields scheduler
      (fun _ after => Discharged id channel.group scheduler after) fun _ _ => True := by
  obtain ⟨fitUpdated, passes⟩ := related_withdrawn (brief_passes channel.runlist)
    (passes_waitRunlist channel.runlist) inTime fit
  have withdrawn : ∀ updated : Scheduler, updated.Fit ∧ Passes scheduler updated → (do
      runDeferredResets id channel.group
      leaveSlot id channel.group : Operation Scheduler Unit).Yields updated
      (fun _ after => Discharged id channel.group scheduler after) fun _ _ => True := by
    rintro updated ⟨fitUpdated, passes⟩
    have still : updated.Named := by
      unfold Named
      rw [passes.deferred, passes.config]
      exact named
    rw [yields_bind]
    refine (yields_discharged fitUpdated still id channel.group).mono ?_ fun _ _ => False.elim
    intro _ reset discharged
    refine (respects_iff_yields.mp (passes_leaveSlot id channel.group) reset).mono ?_
      fun _ _ _ => trivial
    exact fun _ after leaves => discharged.around passes leaves
  rw [releaseChannel_eq]
  unfold channelAt
  rw [yields_bind, yields_bind, yields_get, yields_entry found, yields_bind, yields_disregard]
  refine (yields_of_state ⟨fitUpdated, passes⟩).mono (fun _ updated => withdrawn updated) ?_
  rintro (_ | _) updated quiet
  · exact withdrawn updated quiet
  · trivial

/-- Giving the last reference back discharges the resets that wait for the channel and for its
group. -/
theorem discharges_drop (fit : scheduler.Fit) (named : scheduler.Named)
    (found : scheduler.channels[id]? = some channel) (last : channel.references = 1)
    (inTime : scheduler.DropsInTime id) :
    (drop id).Yields scheduler (fun _ after => Discharged id channel.group scheduler after)
      fun _ _ => True := by
  refine yields_drop_of_last found last ?_
  rintro counted rfl holds
  refine (discharges_releaseChannel ?_ ?_ holds (inTime channel found)).imp
    fun _ after discharged => discharged.around ?_ (Std.Refl.refl _)
  · exact fit.same rfl rfl
  · exact named
  · exact passes_of_same rfl rfl rfl

end Scheduler

namespace Session

open Scheduler

variable {config : Config} {machine : Machine} {usual : Scheduler → Prop} {session : Session}

/-- Every request files resets of engines there are. -/
theorem files_perform (request : Request) (session : Session) :
    Along (Within Fit Files) session (perform request session).2 := by
  have files : ∀ {operation : Operation Scheduler Unit} {forced : Bool},
      Respects (Within Fit (Defers forced)) operation → Respects (Within Fit Files) operation :=
    fun defers => defers.mono fun _ _ within fit => ⟨(within fit).1, (within fit).2.files⟩
  refine respects_plan recovers_files (fun α step _ => ?_) session
  cases step with
  | update list id add wait => exact files (unforced_updateRunlist list id add wait)
  | withdraw list id => exact files (unforced_updateRunlist list (some id) false true)
  | switch engine disabled =>
    have switches : Respects (Within Fit (Defers false)) (setEngineDisabled engine disabled) :=
      defers_setEngineDisabled engine disabled
    exact files switches
  | resets id group => exact files_runDeferredResets id group
  | alter operation alters =>
    exact alters.mono fun _ _ alters fit =>
      ⟨alters.toStays.fit fit, files_of_same alters.config alters.deferred⟩
  | event injection =>
    exact Act.respects_inject (fun _ _ fit =>
      ⟨fit.same rfl rfl, files_of_same rfl rfl⟩) injection

/-- Along every run the resets that wait are those of engines there are. -/
theorem Reached.named (reached : Reached config machine usual session) :
    session.scheduler.Named := by
  induction reached with
  | begun _ created =>
    intro reset waits
    rw [deferred_of_create created] at waits
    cases waits
  | performed reached _ request ih => exact (files_perform request _ reached.fit).2.named ih

/-- In every reached session, dropping the last reference to a channel without running out of time
runs just the resets that wait for the channel and for its group, each once and in their order; of
the disable bits it clears those of the runlists of engines that it resets, where no other reset
waits. -/
theorem reached_discharges (reached : Reached config machine (fun _ => True) session)
    {handle id : Nat} {channel : Channel} (held : session.handles.find? handle = some id)
    (found : session.scheduler.channels[id]? = some channel) (last : channel.references = 1)
    (inTime : session.scheduler.DropsInTime id) :
    ∃ after, perform (.drop handle) session = (.ok .done, after) ∧
      Discharged id channel.group session.scheduler after.scheduler := by
  have intact := (reached.intact False fun _ _ _ => False.elim).1
  exact exists_perform_drop held (((releases_drop intact False.elim found last inTime).and
    (discharges_drop reached.fit reached.named found last inTime)).mono
      (fun _ _ => And.right) fun _ _ => And.left)

/-- Two channels that are debugged fault on the graphics engine, one after the other, and each is
owed a reset of it. When the first is released the engine is reset, once; the other reset waits on
and keeps the runlist disabled. -/
theorem discharged_of_two : ∃ session after,
    Reached debuggedEngines poweredUp (fun _ => True) session ∧
      session.scheduler.deferred = [⟨0, .channel 0⟩, ⟨0, .channel 1⟩] ∧
      perform (.drop 0) session = (.ok .done, after) ∧
      Discharged 0 none session.scheduler after.scheduler ∧
      after.scheduler.deferred = [⟨0, .channel 1⟩] ∧ after.scheduler.Disables 0 := by
  let requests : List Request :=
    [.bind 0 { runlist := 0, instancePhysical := 0x5000 },
      .bind 1 { runlist := 0, instancePhysical := 0x6000 }, .attach (.channel 0),
      .attach (.channel 1), .inject (.fault 0 { inst := 5, info := MemoryFault.clusterBit }),
      .service, .inject (.fault 0 { inst := 6, info := MemoryFault.clusterBit }), .service]
  have outcome : (Scheduler.create debuggedEngines poweredUp).toOption.map (fun scheduler => decide
      ((performAll { scheduler } requests).handles.find? 0 = some 0 ∧
        (performAll { scheduler } requests).scheduler.channels[0]?.map
          (fun channel => (channel.references, channel.group)) = some (1, none) ∧
        (performAll { scheduler } requests).scheduler.deferred =
          [⟨0, .channel 0⟩, ⟨0, .channel 1⟩] ∧
        (performAll { scheduler } requests).scheduler.Disables 0 ∧
        (performAll { scheduler } requests).scheduler.config = debuggedEngines ∧
        (performAll { scheduler } requests).scheduler.DropsInTime 0)) = some true := by
    decide +kernel
  obtain ⟨scheduler, created, holds⟩ := exists_created outcome
  obtain ⟨held, reads, waits, disables, config, inTime⟩ := decide_eq_true_iff.mp holds
  obtain ⟨channel, found, same⟩ := Option.map_eq_some_iff.mp reads
  obtain ⟨last, alone⟩ := Prod.mk.inj same
  have reached : Reached debuggedEngines poweredUp (fun _ => True)
      (performAll { scheduler } requests) := (Reached.created created).performAll fun _ _ => trivial
  obtain ⟨after, run, discharged⟩ := reached_discharges reached held found last inTime
  rw [alone] at discharged
  have left : after.scheduler.deferred = [⟨0, .channel 1⟩] := by
    rw [discharged.deferred, waits]
    decide
  refine ⟨_, after, reached, waits, run, discharged, left, ?_⟩
  let graphics : Engine := { id := 0, kind := .graphics, runlist := 0 }
  have isReset :
      (performAll { scheduler } requests).scheduler.ResetOf ⟨0, .channel 0⟩ graphics := by
    unfold ResetOf
    rw [config]
    decide
  have isDue : (⟨0, .channel 0⟩ : DeferredReset) ∈
      (performAll { scheduler } requests).scheduler.due 0 none := by
    rw [mem_due, waits]
    decide
  refine (discharged.lifted _ isDue graphics isReset).mpr ⟨disables, ?_⟩
  unfold Owes
  rw [left, discharged.config, config]
  decide

end Session

end GpuSched
