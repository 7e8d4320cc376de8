import GpuSched.Proofs.Scheduler.Handovers
import GpuSched.Proofs.Scheduler.Serialization

/-!
# The buffer that the hardware may still be reading

An update writes its list into the spare buffer and makes that buffer the current one when it
returns. If the hardware does not pick the list up in time, the update fails and the buffers stay as
they are: the list that the hardware was handed lies in the spare buffer, and the next update writes
over it. An update that does not wait returns while the hardware may still be reading the list
before, which lies in the buffer that is the spare one then. After an update that has waited and
returned neither can happen, and as long as the runlist is handed nothing else it stays so.
-/
namespace GpuSched

open Operation

/-- The hardware reads the entries of a list at an address. -/
def Submission.LiesAt (submission : Submission) (base : Nat) : Prop :=
  submission.count ≠ 0 ∧ submission.base = base

/-- The hardware may still be reading a list of a runlist at an address: the latest one that it was
handed, and as long as it has not picked that one up, any that it was handed before. -/
def Simulation.MayRead (sim : Simulation) (runlist base : Nat) : Prop :=
  ∃ latest earlier, sim.handed runlist = latest :: earlier ∧
    (latest.LiesAt base ∨
      sim.awaits runlist = true ∧ ∃ submission ∈ earlier, submission.LiesAt base)

namespace Scheduler

variable {scheduler before middle after : Scheduler} {runlistId id : Nat} {runlist : Runlist}

/-- A wait that ends with a yes by the clock ends once the list was picked up. Prompt hardware
answers yes. -/
theorem yields_waitRunlist_yes (timely : scheduler.Timely)
    (inRange : runlistId < Register.runlistCount) :
    (waitRunlist runlistId).Yields scheduler
      (fun answer after => Rests runlistId scheduler after ∧
        (answer = true → scheduler.config.timing = .wallclock →
          after.machine.bus.hardware.awaits runlistId = false) ∧
        (scheduler.machine.bus.hardware.Prompt runlistId → answer = true))
      fun _ _ => False := by
  have asks : ∀ bus : Bus, (not <$> Device.runlistPending runlistId).Yields bus
      (fun answer after => (answer = true → after.hardware.awaits runlistId = false) ∧
        (bus.hardware.Prompt runlistId → answer = true)) fun _ _ => False := by
    intro bus
    rw [yields_map]
    refine (Device.yields_runlistPending inRange).imp ?_
    rintro answer after ⟨heard, picked⟩
    refine ⟨fun yes => picked (by simpa using yes), fun prompt => ?_⟩
    rw [heard, prompt.pickedUp]
    rfl
  have quiet : Respects (Rests runlistId) (waitRunlist runlistId) := rests_waitRunlist runlistId
  have waits : (waitRunlist runlistId).Yields scheduler
      (fun answer after => (answer = true → scheduler.config.timing = .wallclock →
          after.machine.bus.hardware.awaits runlistId = false) ∧
        (scheduler.machine.bus.hardware.Prompt runlistId → answer = true))
      fun _ _ => False := by
    unfold waitRunlist
    rw [yields_bind, yields_get]
    unfold Yields
    rw [waitFor_eq timely scheduler.config.poll.mem_timeouts.1]
    cases timing : scheduler.config.timing with
    | simulated => exact ⟨fun _ impossible => (by cases impossible), fun _ => rfl⟩
    | wallclock =>
      dsimp only
      change (onBus _).Yields scheduler _ _
      unfold onBus
      rw [yields_focus]
      refine (Backoff.yields_wait_yes asks _ _ scheduler.machine.bus).imp ?_
      exact fun answer bus heard => ⟨fun yes _ => heard.1 yes, heard.2⟩
  exact ((respects_iff_yields.mp quiet scheduler).and waits).mono (fun _ _ => id)
    fun _ _ => And.right

/-- Waiting until a list is picked up ends by the clock once it was. It is refused on no prompt
hardware. -/
theorem yields_awaitPickup_pickedUp (timely : scheduler.Timely)
    (inRange : runlistId < Register.runlistCount) :
    (awaitPickup runlistId).Yields scheduler
      (fun _ after => Rests runlistId scheduler after ∧
        (scheduler.config.timing = .wallclock →
          after.machine.bus.hardware.awaits runlistId = false))
      fun _ after => Rests runlistId scheduler after ∧
        ¬ scheduler.machine.bus.hardware.Prompt runlistId := by
  unfold awaitPickup
  rw [yields_bind]
  refine (yields_waitRunlist_yes timely inRange).mono ?_ fun _ _ => False.elim
  rintro (_ | _) waited ⟨quiet, met, sure⟩
  · have tardy : ¬ scheduler.machine.bus.hardware.Prompt runlistId := fun prompt => by
      cases sure prompt
    have goesOn : Respects (Rests runlistId)
        (recoverRunlistEngines runlistId >>= dropTargets runlistId) :=
      (rests_recoverRunlistEngines runlistId).bind (rests_dropTargets runlistId)
    change (recoverRunlistEngines runlistId >>= fun targets =>
      dropTargets runlistId targets >>= fun _ => _).Yields waited _ _
    rw [← bind_assoc, yields_bind]
    refine (respects_iff_yields.mp goesOn waited).mono ?_ ?_
    · intro _ dropped stays
      have soFar : Rests runlistId scheduler dropped := IsTrans.trans _ _ _ quiet stays
      rw [yields_bind]
      have still := soFar.sameTimes.timely timely
      refine (yields_waitRunlist_yes still inRange).mono ?_ fun _ _ => False.elim
      rintro (_ | _) after ⟨last, metLast, _⟩
      · exact ⟨IsTrans.trans _ _ _ soFar last, tardy⟩
      · refine ⟨IsTrans.trans _ _ _ soFar last, fun clock => metLast rfl ?_⟩
        rw [soFar.config]
        exact clock
    · exact fun _ after stays => ⟨IsTrans.trans _ _ _ quiet stays, tardy⟩
  · exact ⟨quiet, met rfl⟩

/-- The latest list of a runlist is empty, or it lies in the buffer on a side. -/
def LatestIn (scheduler : Scheduler) (runlistId : Nat) (side : Side) : Prop :=
  ∀ latest ∈ (scheduler.machine.bus.hardware.handed runlistId).head?, latest.count ≠ 0 →
    scheduler.page? runlistId side = some latest.base

/-- The latest list stays where it is as long as no buffer moves and no list is handed over. -/
theorem Holds.latestIn {side : Side} (holds : Holds runlistId before after)
    (latest : before.LatestIn runlistId side) : after.LatestIn runlistId side := by
  have same : after.machine.bus.hardware.handed runlistId =
      before.machine.bus.hardware.handed runlistId := holds.hardware.handed
  unfold LatestIn
  rw [same, holds.pages side]
  exact latest

/-- A runlist was handed at least one list, and the latest one lies in the buffer on a side. -/
structure HandedOver (runlistId : Nat) (side : Side) (before after : Scheduler) : Prop where
  grows : Simulation.Grows runlistId before.machine.bus.hardware after.machine.bus.hardware
  latest : after.LatestIn runlistId side

/-- A list is handed over in the spare buffer. -/
theorem yields_submitSpare (inRange : runlistId < Register.runlistCount)
    (found : scheduler.runlists.find? runlistId = some runlist) (count : Nat) :
    (onBus (Device.submitRunlist runlistId runlist.spare.physical count)).Yields scheduler
      (fun _ after => HandedOver runlistId .spare scheduler after ∧
        after.runlists = scheduler.runlists ∧ SameTimes scheduler after ∧
        (scheduler.machine.bus.hardware.Prompt runlistId →
          after.machine.bus.hardware.Prompt runlistId))
      fun _ _ => False := by
  have prompts := respects_iff_yields.mp
    (Device.staysPrompt_submitRunlist runlistId runlistId runlist.spare.physical count)
    scheduler.machine.bus
  unfold onBus
  rw [yields_focus]
  refine ((Device.yields_submitRunlist inRange _ count).and prompts).mono ?_ fun _ _ => And.left
  rintro _ bus ⟨⟨base, logged, address⟩, prompt⟩
  have handed : bus.hardware.handed runlistId =
      ⟨runlistId, base, count % 0x10000⟩ :: scheduler.machine.bus.hardware.handed runlistId := by
    unfold Simulation.handed
    rw [logged, List.filter_cons_of_pos (by simp)]
  refine ⟨⟨⟨_, [], handed⟩, ?_⟩, rfl, ⟨rfl, rfl⟩, prompt⟩
  unfold LatestIn
  dsimp only
  rw [handed]
  rintro _ ⟨⟩ filled
  have some_entries : count ≠ 0 := fun none => filled (by rw [none])
  unfold page?
  dsimp only
  rw [found, address some_entries]
  rfl

/-- Once the buffers have changed places, the latest list lies in the other one. -/
theorem yields_swapBuffers_latest (listed : (scheduler.page? runlistId .spare).isSome = true)
    (latest : scheduler.LatestIn runlistId .spare) (count : Nat) :
    (swapBuffers runlistId count).Yields scheduler
      (fun _ after => after.LatestIn runlistId .current ∧ after.machine = scheduler.machine)
      fun _ _ => False := by
  unfold page? at listed
  rw [Option.isSome_map, Option.isSome_iff_exists] at listed
  obtain ⟨runlist, found⟩ := listed
  unfold swapBuffers putRunlist
  rw [yields_bind, yields_runlist_found found, yields_modify]
  refine ⟨fun submission mem filled => ?_, rfl⟩
  have before := latest submission mem filled
  unfold page? at before ⊢
  dsimp only
  rw [Table.find?_insert, if_pos rfl]
  rw [found] at before
  exact before

/-- A list that was handed over ends up in the current buffer. By the clock the hardware has picked
it up then, if it was waited for. On no prompt hardware it is left in the spare buffer. -/
theorem yields_takeUp (timely : scheduler.Timely) (inRange : runlistId < Register.runlistCount)
    (listed : (scheduler.page? runlistId .spare).isSome = true)
    (latest : scheduler.LatestIn runlistId .spare) (count : Nat) (wait : Bool) :
    (takeUp runlistId count wait).Yields scheduler
      (fun _ after => Bus.Rests runlistId scheduler.machine.bus after.machine.bus ∧
        after.LatestIn runlistId .current ∧
        (wait = true → scheduler.config.timing = .wallclock →
          after.machine.bus.hardware.awaits runlistId = false))
      fun _ after => Bus.Rests runlistId scheduler.machine.bus after.machine.bus ∧
        after.LatestIn runlistId .spare ∧
        ¬ scheduler.machine.bus.hardware.Prompt runlistId := by
  cases wait with
  | false =>
    refine (yields_swapBuffers_latest listed latest count).mono ?_ fun _ _ => False.elim
    rintro _ after ⟨swapped, machine⟩
    refine ⟨?_, swapped, fun waits => absurd waits (by decide)⟩
    rw [machine]
    exact Std.Refl.refl _
  | true =>
    change (awaitPickup runlistId >>= fun _ => swapBuffers runlistId count).Yields scheduler _ _
    rw [yields_bind]
    refine (yields_awaitPickup_pickedUp timely inRange).mono ?_ ?_
    · rintro _ ready ⟨stays, picked⟩
      have still : (ready.page? runlistId .spare).isSome = true := by
        rw [stays.holds.pages]
        exact listed
      refine (yields_swapBuffers_latest still (stays.holds.latestIn latest) count).mono ?_
        fun _ _ => False.elim
      rintro _ after ⟨swapped, machine⟩
      rw [machine]
      exact ⟨stays.hardware, swapped, fun _ => picked⟩
    · rintro _ after ⟨stays, tardy⟩
      exact ⟨stays.hardware, stays.holds.latestIn latest, tardy⟩

/-- An update has handed a list over and returned. -/
structure Renewed (runlistId : Nat) (wait : Bool) (before after : Scheduler) : Prop extends
    HandedOver runlistId .current before after where
  /-- By the clock, an update that waits returns once the list was picked up. -/
  pickedUp : wait = true → before.config.timing = .wallclock →
    after.machine.bus.hardware.awaits runlistId = false
  prompt : before.machine.bus.hardware.Prompt runlistId →
    after.machine.bus.hardware.Prompt runlistId

/-- An update has handed a list over and failed. -/
structure Stranded (runlistId : Nat) (before after : Scheduler) : Prop extends
    HandedOver runlistId .spare before after where
  tardy : ¬ before.machine.bus.hardware.Prompt runlistId

/-- An update leaves the runlist alone, or it hands a list over. The list is in the current buffer
once the update has returned, and in the spare one if it has failed. -/
def Turns (runlistId : Nat) (wait : Bool) (operation : Operation Scheduler Unit)
    (scheduler : Scheduler) : Prop :=
  operation.Yields scheduler
    (fun _ after => Holds runlistId scheduler after ∨ Renewed runlistId wait scheduler after)
    fun _ after => Holds runlistId scheduler after ∨ Stranded runlistId scheduler after

/-- What is done after steps that leave the runlist alone. -/
theorem Turns.following {operation : Operation Scheduler Unit} {wait : Bool}
    (turns : Turns runlistId wait operation middle) (quiet : Holds runlistId before middle) :
    operation.Yields middle
      (fun _ after => Holds runlistId before after ∨ Renewed runlistId wait before after)
      fun _ after => Holds runlistId before after ∨ Stranded runlistId before after := by
  have grown : ∀ {after : Scheduler},
      Simulation.Grows runlistId middle.machine.bus.hardware after.machine.bus.hardware →
      Simulation.Grows runlistId before.machine.bus.hardware after.machine.bus.hardware :=
    fun grows => grows.of_handed quiet.hardware.handed
  have prompts : before.machine.bus.hardware.Prompt runlistId →
      middle.machine.bus.hardware.Prompt runlistId := fun prompt => prompt.rests quiet.hardware
  refine Yields.mono turns ?_ ?_
  · rintro _ after (stays | renewed)
    · exact .inl (IsTrans.trans _ _ _ quiet stays)
    · refine .inr ⟨⟨grown renewed.grows, renewed.latest⟩, fun waits clock => ?_, ?_⟩
      · exact renewed.pickedUp waits (quiet.config ▸ clock)
      · exact renewed.prompt ∘ prompts
  · rintro _ after (stays | stranded)
    · exact .inl (IsTrans.trans _ _ _ quiet stays)
    · exact .inr ⟨⟨grown stranded.grows, stranded.latest⟩, stranded.tardy ∘ prompts⟩

/-- A list is handed over. -/
theorem turns_handOver (timely : scheduler.Timely) (inRange : runlistId < Register.runlistCount)
    (count : Nat) (wait : Bool) :
    Turns runlistId wait (handOver runlistId count wait) scheduler := by
  unfold Turns handOver
  rw [yields_bind, yields_runlist]
  cases found : scheduler.runlists.find? runlistId with
  | none => exact .inl (Std.Refl.refl _)
  | some runlist =>
    dsimp only
    rw [yields_bind]
    refine (yields_submitSpare inRange found count).mono ?_ fun _ _ => False.elim
    rintro _ handed ⟨⟨grows, latest⟩, runlists, same, prompts⟩
    have listed : (handed.page? runlistId .spare).isSome = true := by
      unfold page?
      rw [runlists, found]
      rfl
    change (takeUp runlistId count wait).Yields handed _ _
    refine (yields_takeUp (same.timely timely) inRange listed latest count wait).mono ?_ ?_
    · rintro _ after ⟨stays, swapped, picked⟩
      refine .inr ⟨⟨grows.trans (.inr stays.handed), swapped⟩, ?_, fun prompt => ?_⟩
      · rw [← same.config]
        exact picked
      · exact (prompts prompt).rests stays
    · rintro _ after ⟨stays, stranded, tardy⟩
      exact .inr ⟨⟨grows.trans (.inr stays.handed), stranded⟩, tardy ∘ prompts⟩

/-- What is active is written and handed over, or an empty list. -/
theorem turns_submitList (timely : scheduler.Timely) (inRange : runlistId < Register.runlistCount)
    (suspend wait : Bool) : Turns runlistId wait (submitList runlistId suspend wait) scheduler := by
  have prepares : Respects (Holds runlistId)
      (if suspend then pure 0 else writeList runlistId) := holds_prepareList runlistId suspend
  unfold Turns
  rw [submitList_eq, yields_bind]
  exact (respects_iff_yields.mp prepares scheduler).mono
    (fun count _ quiet =>
      (turns_handOver (quiet.sameTimes.timely timely) inRange count wait).following quiet)
    fun _ _ => .inl

/-- A runlist is updated. -/
theorem turns_updateRunlist (timely : scheduler.Timely)
    (inRange : runlistId < Register.runlistCount) (id : Option Nat) (add wait : Bool) :
    Turns runlistId wait (updateRunlist runlistId id add wait) scheduler := by
  have looks : Respects (Holds runlistId) (Scheduler.runlist runlistId) :=
    (reads_runlist runlistId).respects
  unfold Turns updateRunlist
  rw [yields_bind]
  refine (respects_iff_yields.mp looks scheduler).mono (fun runlist found quiet => ?_)
    fun _ _ => .inl
  have timelyFound := quiet.sameTimes.timely timely
  refine Turns.following ?_ quiet
  cases id with
  | none => exact turns_submitList timelyFound inRange _ wait
  | some id =>
    have sets : Respects (Holds runlistId) (setActive runlistId id add) :=
      holds_of_rests (rests_setActive runlistId id add)
    unfold Turns
    rw [yields_bind]
    refine (respects_iff_yields.mp sets found).mono
      (fun changed middle stays => Turns.following ?_ stays) fun _ _ => .inl
    split
    · exact turns_submitList (stays.sameTimes.timely timelyFound) inRange false wait
    · exact .inl (Std.Refl.refl _)

/-- The latest list of a runlist is empty or lies in the current buffer. If so much is known, the
hardware has picked it up. -/
structure TakenUp (runlistId : Nat) (known : Bool) (scheduler : Scheduler) : Prop where
  latest : scheduler.LatestIn runlistId .current
  pickedUp : known = true → scheduler.machine.bus.hardware.awaits runlistId = false

namespace TakenUp

variable {known : Bool}

/-- It stays so as long as the runlist is left alone, on responsive hardware. -/
theorem holds (taken : TakenUp runlistId known before) (holds : Holds runlistId before after)
    (free : known = true → before.machine.bus.hardware.Responsive runlistId) :
    TakenUp runlistId known after :=
  ⟨holds.latestIn taken.latest, fun sure =>
    holds.hardware.pickedUp (free sure) (taken.pickedUp sure)⟩

/-- The latest list does not lie in the spare buffer, unless both buffers are in one place. -/
theorem not_liesAt (taken : TakenUp runlistId known scheduler)
    (pages : ∀ side, scheduler.page? runlistId side = some (runlist.page side))
    (apart : runlist.page .current ≠ runlist.page .spare) {latest : Submission}
    (mem : latest ∈ (scheduler.machine.bus.hardware.handed runlistId).head?) :
    ¬ latest.LiesAt (runlist.page .spare) := by
  rintro ⟨filled, here⟩
  have lies := taken.latest latest mem filled
  rw [pages, Option.some.injEq] at lies
  exact apart (lies.trans here)

/-- Once it was picked up, the hardware reads nothing in the spare buffer. -/
theorem not_mayRead (taken : TakenUp runlistId true scheduler)
    (pages : ∀ side, scheduler.page? runlistId side = some (runlist.page side))
    (apart : runlist.page .current ≠ runlist.page .spare) :
    ¬ scheduler.machine.bus.hardware.MayRead runlistId (runlist.page .spare) := by
  rintro ⟨latest, earlier, handed, here | ⟨awaits, _⟩⟩
  · exact taken.not_liesAt pages apart (by rw [handed]; rfl) here
  · rw [taken.pickedUp rfl] at awaits
    cases awaits

end TakenUp

/-- A runlist is left alone, or it is handed lists. -/
def Advances (runlistId : Nat) (before after : Scheduler) : Prop :=
  Holds runlistId before after ∨
    Simulation.Grows runlistId before.machine.bus.hardware after.machine.bus.hardware

instance (runlistId : Nat) : IsPreorder Scheduler (Advances runlistId) where
  refl scheduler := .inl (Std.Refl.refl scheduler)
  trans before middle after := by
    rintro (one | one) (two | two)
    · exact .inl (IsTrans.trans _ _ _ one two)
    · exact .inr (two.of_handed one.hardware.handed)
    · exact .inr (one.trans (.inr two.hardware.handed))
    · exact .inr (one.trans (.inl two))

/-- A relation follows a runlist, as long as the clock can tell the times of waits, if it holds
wherever the runlist is left alone and after every update of it. -/
theorem follows_of_turns {related : Scheduler → Scheduler → Prop}
    (holds : ∀ before after, Holds runlistId before after → related before after)
    (updates : ∀ scheduler : Scheduler, scheduler.Timely → ∀ (id : Option Nat) (add wait : Bool),
      related scheduler (updateRunlist runlistId id add wait scheduler).2) :
    Follows runlistId (Within Timely related) where
  holds before after quiet timely := ⟨quiet.sameTimes.timely timely, holds before after quiet⟩
  updates id add wait scheduler timely :=
    ⟨(sameTimes_updateRunlist runlistId id add wait scheduler).timely timely,
      updates scheduler timely id add wait⟩

/-- Every update leaves its runlist alone or hands it a list. -/
theorem follows_advances (inRange : runlistId < Register.runlistCount) :
    Follows runlistId (Within Timely (Advances runlistId)) := by
  refine follows_of_turns (fun _ _ => .inl) fun scheduler timely id add wait => Yields.holds ?_
  refine Yields.mono (turns_updateRunlist timely inRange id add wait) ?_ ?_
  · exact fun _ _ => Or.imp_right fun renewed => renewed.grows
  · exact fun _ _ => Or.imp_right fun stranded => stranded.grows

/-- Prompt hardware picks every list up, and the latest one is in the current buffer whenever an
update has ended. -/
theorem follows_prompt (inRange : runlistId < Register.runlistCount) :
    Follows runlistId (Within Timely (Kept fun scheduler =>
      scheduler.machine.bus.hardware.Prompt runlistId ∧
        scheduler.LatestIn runlistId .current)) := by
  have stays : ∀ before after : Scheduler, Holds runlistId before after →
      Kept (fun scheduler => scheduler.machine.bus.hardware.Prompt runlistId ∧
        scheduler.LatestIn runlistId .current) before after :=
    fun _ _ holds kept => ⟨kept.1.rests holds.hardware, holds.latestIn kept.2⟩
  refine follows_of_turns stays fun scheduler timely id add wait => Yields.holds ?_
  refine Yields.mono (turns_updateRunlist timely inRange id add wait) ?_ ?_
  · rintro _ after (holds | renewed)
    · exact stays _ _ holds
    · exact fun kept => ⟨renewed.prompt kept.1, renewed.latest⟩
  · rintro _ after (holds | stranded)
    · exact stays _ _ holds
    · exact fun kept => absurd kept.1 stranded.tardy

/-- An update that submits a list writes it into the spare buffer. Until then neither the hardware
nor the places of the buffers have changed. -/
theorem exists_written {exact : Prop} (sound : scheduler.Sound exact) {add : Bool}
    {id : Option Nat} (submits : Submits runlistId add scheduler id middle) (wait : Bool) :
    ∃ runlist handed, middle.runlists.find? runlistId = some runlist ∧
      runlistId < Register.runlistCount ∧ middle.machine = scheduler.machine ∧
      (∀ side, scheduler.page? runlistId side = some (runlist.page side)) ∧
      Handed runlistId ((middle.listing runlistId).map RunlistEntry.stored) middle handed ∧
      updateRunlist runlistId id add wait scheduler =
        takeUp runlistId (middle.listing runlistId).length wait handed := by
  obtain ⟨soundMiddle, _, ⟨runlist, found⟩, updates⟩ :=
    updateRunlist_of_submits sound submits wait
  obtain ⟨handed, hands, goesOn⟩ := exists_handed soundMiddle found wait
  have quiet : Shifts scheduler middle := by
    cases submits with
    | again => exact Std.Refl.refl _
    | @changed id middle changes =>
      have shifts := shifts_setActive runlistId id add scheduler
      rwa [changes] at shifts
  have holds : Holds runlistId scheduler middle := quiet.rests.holds
  refine ⟨runlist, handed, found, soundMiddle.shaped.inRange found, quiet.machine, fun side => ?_,
    hands, updates.trans goesOn⟩
  rw [← holds.pages side]
  unfold page?
  rw [found]
  rfl

end Scheduler

namespace Session

open Scheduler

variable {config : Config} {machine : Machine} {session : Session} {runlistId : Nat}

/-- An event on the side of the hardware leaves it with the lists that it has picked up. -/
theorem takenUp_inject (known : Bool) (event : Injection) :
    Respects (Along (Kept (TakenUp runlistId known))) (perform (.inject event)) := by
  refine respects_call fun scheduler => ?_
  refine related_bind (respects_get scheduler) fun read middle run => ?_
  cases run
  refine related_lift_bind fun hardware injects => ?_
  refine related_bind ?_ fun _ _ _ => Std.Refl.refl _
  obtain ⟨submissions, runlists, -⟩ := Simulation.inject_eq_ok injects
  rintro ⟨latest, picked⟩
  refine ⟨fun submission mem => ?_, fun sure => ?_⟩
  · change submission ∈ (hardware.submissions.filter (·.runlist = runlistId)).head? at mem
    rw [submissions] at mem
    exact latest submission mem
  · change ((hardware.runlists.find? runlistId).getD {}).read.1 = false
    rw [runlists]
    exact picked sure

/-- The lists that a runlist was handed, the latest first. -/
def handed (session : Session) (runlistId : Nat) : List Submission :=
  session.scheduler.machine.bus.hardware.handed runlistId

/-- The sessions in which the latest list of a runlist was handed over by an update that has
returned, and whether it is known of the list that the hardware has picked it up. -/
inductive Settled (config : Config) (machine : Machine) (runlistId : Nat) :
    Bool → Session → Prop where
  /-- The runlist was handed no list yet. -/
  | begun {clock : Clock} {scheduler : Scheduler} (timely : config.Timely clock)
      (created : Scheduler.create config machine clock = .ok scheduler)
      (unused : scheduler.machine.bus.hardware.handed runlistId = []) :
      Settled config machine runlistId false { scheduler }
  /-- An update has handed a list over and returned. If it has waited for the hardware by the clock,
  the list was picked up. -/
  | updated {session : Session} (reached : Reached config machine (fun _ => True) session)
      (id : Option Nat) (add wait : Bool)
      (returns : (perform (.update runlistId id add wait) session).1 = .ok .done)
      (hands : (perform (.update runlistId id add wait) session).2.handed runlistId ≠
        session.handed runlistId) :
      Settled config machine runlistId (wait && decide (config.timing = .wallclock))
        (perform (.update runlistId id add wait) session).2
  /-- The hardware says that it has picked the list up. -/
  | idle {known : Bool} {session : Session}
      (settled : Settled config machine runlistId known session)
      (idle : session.scheduler.machine.bus.hardware.awaits runlistId = false) :
      Settled config machine runlistId true session
  /-- A request hands the runlist nothing. A list that was picked up stays so unless a hang without
  end is set. -/
  | quiet {known : Bool} {session : Session}
      (settled : Settled config machine runlistId known session) (request : Request)
      (responsive : known = true →
        session.scheduler.machine.bus.hardware.Responsive runlistId)
      (same : (perform request session).2.handed runlistId = session.handed runlistId) :
      Settled config machine runlistId known (perform request session).2
  /-- Any request is made of hardware that picks every list of the runlist up at once. -/
  | prompt {known : Bool} {session : Session}
      (settled : Settled config machine runlistId known session) (request : Request)
      (prompt : session.scheduler.machine.bus.hardware.Prompt runlistId) :
      Settled config machine runlistId true (perform request session).2

/-- Settled sessions are reached ones. -/
theorem Settled.reached {known : Bool} (settled : Settled config machine runlistId known session) :
    Reached config machine (fun _ => True) session := by
  induction settled with
  | begun timely created => exact .begun timely created
  | updated reached => exact reached.performed trivial _
  | idle _ _ ih => exact ih
  | quiet _ request _ _ ih => exact ih.performed trivial request
  | prompt _ request _ ih => exact ih.performed trivial request

/-- What an update as a request does to the runlist. -/
theorem yields_update (timely : session.scheduler.Timely)
    (inRange : runlistId < Register.runlistCount) (id : Option Nat) (add wait : Bool) :
    (perform (.update runlistId id add wait)).Yields session
      (fun _ after => Holds runlistId session.scheduler after.scheduler ∨
        Renewed runlistId wait session.scheduler after.scheduler)
      fun _ after => Holds runlistId session.scheduler after.scheduler ∨
        Stranded runlistId session.scheduler after.scheduler := by
  unfold perform call
  dsimp only
  rw [yields_focus, yields_seqRight]
  exact turns_updateRunlist timely inRange id add wait

/-- In a settled session the latest list does not lie in the spare buffer. -/
theorem Settled.takenUp {known : Bool} (settled : Settled config machine runlistId known session)
    (inRange : runlistId < Register.runlistCount) :
    TakenUp runlistId known session.scheduler := by
  induction settled with
  | begun _ _ unused =>
    refine ⟨fun latest mem => ?_, fun impossible => absurd impossible (by decide)⟩
    rw [unused] at mem
    cases mem
  | @updated session reached id add wait returns hands =>
    have update := yields_update reached.timely inRange id add wait
    rcases run : perform (.update runlistId id add wait) session with ⟨result, after⟩
    rw [run] at returns hands
    cases returns
    rcases update.of_ok run with holds | renewed
    · exact absurd holds.hardware.handed hands
    · refine ⟨renewed.latest, fun sure => ?_⟩
      obtain ⟨_, same⟩ := reached.intact False fun _ _ _ => False.elim
      rw [Bool.and_eq_true, decide_eq_true_iff, ← same] at sure
      exact renewed.pickedUp sure.1 sure.2
  | idle _ idle ih => exact ⟨ih.latest, fun _ => idle⟩
  | @quiet known session settled request responsive same ih =>
    by_cases event : ∃ event, request = .inject event
    · obtain ⟨event, rfl⟩ := event
      exact takenUp_inject known event session ih
    · have advances : Advances runlistId session.scheduler (perform request session).2.scheduler :=
        (respects_perform (follows_advances inRange) (not_exists.mp event) session
          settled.reached.timely).2
      rcases advances with holds | grows
      · exact ih.holds holds responsive
      · exact absurd same grows.handed_ne
  | @prompt known session settled request prompt ih =>
    by_cases event : ∃ event, request = .inject event
    · obtain ⟨event, rfl⟩ := event
      exact takenUp_inject true event session ⟨ih.latest, fun _ => prompt.pickedUp⟩
    · obtain ⟨still, latest⟩ :=
        (respects_perform (follows_prompt inRange) (not_exists.mp event) session
          settled.reached.timely).2 ⟨prompt, ih.latest⟩
      exact ⟨latest, fun _ => still.pickedUp⟩

/-- In a settled session an update that submits a list, waiting or not, writes it into another
buffer than that of the latest list, and into none that the hardware can still be reading if it is
known to have picked that list up. -/
theorem settled_spares {known : Bool} (settled : Settled config machine runlistId known session)
    {id : Option Nat} {add : Bool} {middle : Scheduler}
    (submits : Submits runlistId add session.scheduler id middle) (wait : Bool)
    (apart : session.scheduler.page? runlistId .current ≠
      session.scheduler.page? runlistId .spare) :
    ∃ runlist handed, middle.runlists.find? runlistId = some runlist ∧
      Handed runlistId ((middle.listing runlistId).map RunlistEntry.stored) middle handed ∧
      updateRunlist runlistId id add wait session.scheduler =
        takeUp runlistId (middle.listing runlistId).length wait handed ∧
      (∀ latest ∈ (middle.machine.bus.hardware.handed runlistId).head?,
        ¬ latest.LiesAt (runlist.page .spare)) ∧
      (known = true → ¬ middle.machine.bus.hardware.MayRead runlistId (runlist.page .spare)) := by
  have sound := (settled.reached.intact False fun _ _ _ => False.elim).1.sound
  obtain ⟨runlist, handed, found, inRange, machine, pages, hands, updates⟩ :=
    exists_written sound submits wait
  have taken := settled.takenUp inRange
  have places : runlist.page .current ≠ runlist.page .spare := by
    rw [pages, pages] at apart
    exact fun same => apart (congrArg some same)
  refine ⟨runlist, handed, found, hands, updates, ?_, ?_⟩
  · rw [machine]
    exact fun latest mem => taken.not_liesAt pages places mem
  · rintro rfl
    rw [machine]
    exact taken.not_mayRead pages places

/-- An update that has failed after it handed a list over leaves that list to the next update to
write over. -/
theorem reached_overwrites (reached : Reached config machine (fun _ => True) session)
    {first : Option Nat} {enters : Bool} {failure : Failure} {failed : Session} {waits : Bool}
    (fails : perform (.update runlistId first enters waits) session = (.error failure, failed))
    (hands : failed.handed runlistId ≠ session.handed runlistId)
    {id : Option Nat} {add : Bool} {middle : Scheduler}
    (submits : Submits runlistId add failed.scheduler id middle) (wait : Bool) :
    ∃ runlist handed latest earlier, middle.runlists.find? runlistId = some runlist ∧
      Handed runlistId ((middle.listing runlistId).map RunlistEntry.stored) middle handed ∧
      updateRunlist runlistId id add wait failed.scheduler =
        takeUp runlistId (middle.listing runlistId).length wait handed ∧
      middle.machine.bus.hardware.handed runlistId = latest :: earlier ∧
      (latest.count ≠ 0 → latest.LiesAt (runlist.page .spare)) := by
  have after : Reached config machine (fun _ => True) failed := by
    have performed := reached.performed trivial (.update runlistId first enters waits)
    rwa [fails] at performed
  have sound := (after.intact False fun _ _ _ => False.elim).1.sound
  obtain ⟨runlist, handed, found, inRange, machine, pages, hands', updates⟩ :=
    exists_written sound submits wait
  have update := (yields_update reached.timely inRange first enters waits).of_error fails
  obtain holds | stranded := update
  · exact absurd holds.hardware.handed hands
  · obtain ⟨latest, earlier, grown⟩ := stranded.grows
    refine ⟨runlist, handed, latest, earlier ++ session.handed runlistId, found, hands', updates,
      ?_, fun filled => ⟨filled, ?_⟩⟩
    · rw [machine]
      exact grown
    · have lies := stranded.latest latest (by rw [grown]; rfl) filled
      rw [pages, Option.some.injEq] at lies
      exact lies.symm

/-- One channel is listed and its list picked up; then another becomes active, without a wait. Its
list goes into the other buffer. -/
theorem settled_spares_of_wait : ∃ session middle runlist handed,
    Settled oneEngine poweredUp 0 true session ∧ session.handed 0 = [⟨0, 0x101000, 1⟩] ∧
      Submits 0 true session.scheduler (some 1) middle ∧
      middle.runlists.find? 0 = some runlist ∧
      Handed 0 [.channel 0, .channel 1] middle handed ∧
      ¬ middle.machine.bus.hardware.MayRead 0 (runlist.page .spare) := by
  let requests : List Request := [.bind 0 { runlist := 0 }, .bind 1 { runlist := 0 }]
  let first : Request := .update 0 (some 0) true true
  have outcome : (Scheduler.create oneEngine poweredUp).toOption.map (fun scheduler => decide
      ((perform first (performAll { scheduler } requests)).1.toOption = some .done ∧
        (performAll { scheduler } requests).handed 0 = [] ∧
        (perform first (performAll { scheduler } requests)).2.handed 0 = [⟨0, 0x101000, 1⟩] ∧
        (perform first (performAll { scheduler } requests)).2.scheduler.page? 0 .current ≠
          (perform first (performAll { scheduler } requests)).2.scheduler.page? 0 .spare ∧
        (setActive 0 1 true
          (perform first (performAll { scheduler } requests)).2.scheduler).1.toOption = some true ∧
        (setActive 0 1 true
          (perform first (performAll { scheduler } requests)).2.scheduler).2.listing 0 =
            [.channel 0, .channel 1])) = some true := by decide +kernel
  obtain ⟨scheduler, created, holds⟩ := exists_created outcome
  obtain ⟨returns, none_before, one_after, apart, changes, listing⟩ := decide_eq_true_iff.mp holds
  have reached : Reached oneEngine poweredUp (fun _ => True) (performAll { scheduler } requests) :=
    (Reached.created created).performAll fun _ _ => trivial
  have settled : Settled oneEngine poweredUp 0 true
      (perform first (performAll { scheduler } requests)).2 := by
    refine .updated reached (some 0) true true (eq_ok_of_toOption returns) ?_
    change (perform first (performAll { scheduler } requests)).2.handed 0 ≠ _
    rw [none_before, one_after]
    exact List.cons_ne_nil _ _
  have submits : Submits 0 true (perform first (performAll { scheduler } requests)).2.scheduler
      (some 1) _ := .changed (run_of_toOption changes)
  obtain ⟨runlist, handed, found, hands, _, _, spared⟩ :=
    settled_spares settled submits false apart
  rw [listing] at hands
  exact ⟨_, _, runlist, handed, settled, one_after, submits, found, hands, spared rfl⟩

/-- The hardware does not pick up the list of one channel, and its update fails; then another
channel becomes active. Its update returns, and has written over the list that the hardware was
handed. -/
theorem overwritten_after_failure : ∃ session middle runlist handed after,
    Reached oneEngine poweredUp (fun _ => True) session ∧
      session.handed 0 = [⟨0, 0x101000, 1⟩] ∧
      Submits 0 true session.scheduler (some 1) middle ∧
      middle.runlists.find? 0 = some runlist ∧
      Handed 0 [.channel 0, .channel 1] middle handed ∧
      middle.machine.bus.hardware.MayRead 0 (runlist.page .spare) ∧
      updateRunlist 0 (some 1) true false session.scheduler = (.ok (), after) ∧
      after.machine.bus.hardware.handed 0 = [⟨0, 0x101000, 2⟩, ⟨0, 0x101000, 1⟩] := by
  let requests : List Request :=
    [.bind 0 { runlist := 0 }, .bind 1 { runlist := 0 }, .inject (.hangRunlist 0 .forever)]
  let first : Request := .update 0 (some 0) true true
  have outcome : (Scheduler.create oneEngine poweredUp).toOption.map (fun scheduler => decide
      ((perform first (performAll { scheduler } requests)).1.toOption = none ∧
        (performAll { scheduler } requests).handed 0 = [] ∧
        (perform first (performAll { scheduler } requests)).2.handed 0 = [⟨0, 0x101000, 1⟩] ∧
        (setActive 0 1 true
          (perform first (performAll { scheduler } requests)).2.scheduler).1.toOption = some true ∧
        (setActive 0 1 true
          (perform first (performAll { scheduler } requests)).2.scheduler).2.listing 0 =
            [.channel 0, .channel 1] ∧
        (setActive 0 1 true (perform first (performAll { scheduler }
          requests)).2.scheduler).2.machine.bus.hardware.handed 0 = [⟨0, 0x101000, 1⟩] ∧
        (updateRunlist 0 (some 1) true false
          (perform first (performAll { scheduler } requests)).2.scheduler).1.toOption = some () ∧
        (updateRunlist 0 (some 1) true false (perform first (performAll { scheduler }
          requests)).2.scheduler).2.machine.bus.hardware.handed 0 =
            [⟨0, 0x101000, 2⟩, ⟨0, 0x101000, 1⟩])) = some true := by decide +kernel
  obtain ⟨scheduler, created, holds⟩ := exists_created outcome
  obtain ⟨fails, none_before, one_after, changes, listing, still, returns, logged⟩ :=
    decide_eq_true_iff.mp holds
  have reached : Reached oneEngine poweredUp (fun _ => True) (performAll { scheduler } requests) :=
    (Reached.created created).performAll fun _ _ => trivial
  have later := reached.performed trivial first
  rcases run : perform first (performAll { scheduler } requests) with ⟨failure | reply, failed⟩ <;>
    rw [run] at fails one_after changes listing still returns logged later
  · have hands : failed.handed 0 ≠ (performAll { scheduler } requests).handed 0 := by
      rw [none_before, one_after]
      exact List.cons_ne_nil _ _
    have submits : Submits 0 true failed.scheduler (some 1) _ := .changed (run_of_toOption changes)
    obtain ⟨runlist, handed, latest, earlier, found, written, _, last, lies⟩ :=
      reached_overwrites reached run hands submits false
    rw [listing] at written
    rw [still, List.cons.injEq] at last
    obtain ⟨rfl, rfl⟩ := last
    exact ⟨failed, _, runlist, handed, _, later, one_after, submits, found, written,
      ⟨_, [], still, .inl (lies (by decide))⟩, run_of_toOption returns, logged⟩
  · cases fails

end Session

end GpuSched
