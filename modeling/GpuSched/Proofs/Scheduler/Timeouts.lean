import GpuSched.Proofs.Scheduler.Exposure
import GpuSched.Proofs.Scheduler.ForcedFaults
import GpuSched.Proofs.Scheduler.Quiescence

/-!
# Lists that are not picked up in time

An update that waits recovers the engines of its runlist once the first wait runs out. It names them
by the bits of their faults, and of the engines with one fault the first is reset. Where each engine
of the runlist is the first one with its fault, the engines of the runlist are reset and no others,
and the channels that come to be faulted are those of the contexts that these engines blame. Where a
fault is shared with an engine of another runlist, that one may be reset instead.
-/
namespace GpuSched

open Operation

namespace Scheduler

variable {exact : Prop} {scheduler before middle handed after : Scheduler} {list count : Nat}
  {id : Option Nat} {add : Bool}

/-- Whether the first wait of an update runs out. -/
def timesOut (list : Nat) (id : Option Nat) (add : Bool) (scheduler : Scheduler) : Bool :=
  match handUpdate list id add scheduler with
  | (.ok (some _), handed) => (waitRunlist list handed).1.toOption = some false
  | _ => false

/-- The first wait of an update follows the handover and runs out. -/
theorem exists_of_timesOut (overdue : scheduler.timesOut list id add = true) :
    ∃ count handed waited, handUpdate list id add scheduler = (.ok (some count), handed) ∧
      waitRunlist list handed = (.ok false, waited) := by
  unfold timesOut at overdue
  split at overdue
  · rename_i count handed run
    rcases waits : waitRunlist list handed with ⟨result, waited⟩
    rw [waits, decide_eq_true_iff] at overdue
    obtain rfl := eq_ok_of_toOption overdue
    exact ⟨count, handed, waited, run, waits⟩
  · cases overdue

/-- Memberships are steady and reports are spared, and a channel that is faulted is one of those
that are blamed, or stays as it was. -/
structure FaultsOnly (exact : Prop) (blamed : Set Nat) (before after : Scheduler) : Prop
    extends Steady before after where
  sound : after.Sound exact
  words : Bus.Spares Device.recoveryRegisters before.machine.bus after.machine.bus
  faulted : ∀ (id : Nat) (channel : Channel), after.channels[id]? = some channel →
    channel.state = .faulted → id ∈ blamed ∨ before.channels[id]? = some channel

variable {blamed others marked dropped : Set Nat}

/-- One step after another. -/
theorem FaultsOnly.trans (one : FaultsOnly exact blamed before middle)
    (two : FaultsOnly exact others middle after) :
    FaultsOnly exact (blamed ∪ others) before after := by
  refine ⟨one.toSteady.trans two.toSteady, two.sound, one.words.trans two.words, ?_⟩
  intro id channel found faulted
  rcases two.faulted id channel found faulted with inside | held
  · exact .inl (.inr inside)
  · exact (one.faulted id channel held faulted).imp_left .inl

/-- More channels may be blamed. -/
theorem FaultsOnly.mono (faults : FaultsOnly exact blamed before after) (within : blamed ⊆ others) :
    FaultsOnly exact others before after :=
  { faults with
    faulted := fun id channel found faulted =>
      (faults.faulted id channel found faulted).imp_left fun inside => within inside }

/-- A step that faults nobody, and then one that faults some. -/
theorem FaultsOnly.after_quiet (quiet : FaultsOnly exact ∅ before middle)
    (faults : FaultsOnly exact blamed middle after) : FaultsOnly exact blamed before after :=
  (quiet.trans faults).mono (Set.empty_union _).subset

/-- A step that faults some, and then one that faults nobody. -/
theorem FaultsOnly.then_quiet (faults : FaultsOnly exact blamed before middle)
    (quiet : FaultsOnly exact ∅ middle after) : FaultsOnly exact blamed before after :=
  (faults.trans quiet).mono (Set.union_empty _).subset

/-- A step that faults nobody faults only those that are blamed. -/
theorem FaultsOnly.of_quiet (quiet : FaultsOnly exact ∅ before after) :
    FaultsOnly exact blamed before after := quiet.mono (Set.empty_subset _)

/-- Where channels are stopped, those that come to be faulted are marked. -/
theorem Stops.faultsOnly (stops : Stops Device.recoveryRegisters marked dropped before after)
    (sound : after.Sound exact) : FaultsOnly exact marked before after := by
  refine ⟨stops.toSteady, sound, stops.words, fun id channel found _ => ?_⟩
  by_cases mem : id ∈ marked
  · exact .inl mem
  · obtain ⟨held, holds, -⟩ := stops.toSteady.symm.channel_found found
    rw [holds, ← found, stops.spared holds (.inl mem)]
    exact .inr rfl

/-- A change of an active set faults nobody. -/
theorem Toggled.faultsOnly {channel : Nat} (toggled : Toggled list channel add before after)
    (sound : after.Sound exact) : FaultsOnly exact ∅ before after := by
  refine ⟨toggled.toSteady, sound, by rw [toggled.machine]; exact .refl _ _, ?_⟩
  intro other held found faulted
  refine .inr ?_
  by_cases own : other = channel
  · subst own
    obtain ⟨earlier, holds, -, -, changed⟩ := toggled.own
    rw [found, Option.some.injEq] at changed
    subst changed
    change toggledState earlier.state add = .faulted at faulted
    have same : toggledState earlier.state add = earlier.state := by
      unfold toggledState at faulted ⊢
      grind
    rw [holds, same]
  · rwa [toggled.others own] at found

/-- Nothing is stopped before a list is handed over. -/
theorem yields_handAny_quiet (sound : scheduler.Sound exact)
    (listed : scheduler.runlists.contains list = true) (suspend : Bool) :
    (handAny list suspend).Yields scheduler
      (fun _ handed => FaultsOnly exact ∅ scheduler handed) fun _ _ => False := by
  unfold handAny
  rw [yields_bind]
  refine (yields_prepareList sound listed suspend).imp ?_
  rintro count written ⟨soundWritten, stopsWritten⟩
  rw [← stopsWritten.toSteady.listed] at listed
  obtain ⟨runlist, found⟩ := exists_runlist listed
  rw [yields_bind, yields_runlist_found found, yields_bind]
  refine (yields_drive soundWritten Device.listRegisters_subset (Device.serves_submitRunlist
    (soundWritten.shaped.inRange found) _ _)).imp ?_
  rintro _ handed ⟨-, soundHanded, stopsHanded⟩
  exact (stopsWritten.quiet_trans stopsHanded).faultsOnly soundHanded

/-- Up to the handover of its list an update faults nobody. -/
theorem yields_handUpdate_quiet (sound : scheduler.Sound exact) (list : Nat) (id : Option Nat)
    (add : Bool) :
    (handUpdate list id add).Yields scheduler
      (fun _ handed => FaultsOnly exact ∅ scheduler handed ∧
        handed.runlists.contains list = true)
      fun _ after => after = scheduler := by
  unfold handUpdate
  rw [yields_bind, yields_runlist]
  cases found : scheduler.runlists.find? list with
  | none => rfl
  | some runlist =>
    have listed := contains_of_find? found
    have hands : ∀ {middle : Scheduler}, FaultsOnly exact ∅ scheduler middle → ∀ suspend,
        (some <$> handAny list suspend).Yields middle
          (fun _ handed => FaultsOnly exact ∅ scheduler handed ∧
            handed.runlists.contains list = true)
          fun _ after => after = scheduler := by
      intro middle first suspend
      have still : middle.runlists.contains list = true := by rwa [first.listed]
      rw [yields_map]
      refine (yields_handAny_quiet first.sound still suspend).mono ?_ fun _ _ => False.elim
      intro _ handed quiet
      have whole := first.then_quiet quiet
      exact ⟨whole, by rwa [whole.listed]⟩
    have start : FaultsOnly exact ∅ scheduler scheduler :=
      (Stops.refl _ scheduler).faultsOnly sound
    cases id with
    | none => exact hands start (!add)
    | some channel =>
      dsimp only
      rw [yields_bind]
      refine (yields_setActive sound add).mono ?_ fun _ _ unchanged => unchanged.1
      rintro changed middle ⟨soundMiddle, outcome⟩
      cases changed with
      | false =>
        obtain ⟨rfl, -⟩ := outcome
        exact ⟨start, listed⟩
      | true =>
        have toggled : Toggled list channel add scheduler middle := outcome
        exact hands (toggled.faultsOnly soundMiddle) false

/-- What is left of a wait for a list once the first wait has run out. -/
def recoverStalled (list : Nat) : Operation Scheduler Unit := do
  let targets ← recoverRunlistEngines list
  dropTargets list targets
  if !(← waitRunlist list) then
    Operation.refuse (.runlistUpdateFailed list)

/-- A list that is not picked up at once is recovered from. -/
theorem awaitPickup_of_overdue {waited : Scheduler}
    (waits : waitRunlist list handed = (.ok false, waited)) :
    awaitPickup list handed = recoverStalled list waited := by
  unfold awaitPickup
  rw [run_bind_of_ok waits]
  rfl

/-- The engines that are reset for a runlist: all that are on it, and no others. -/
def RestartsList (list : Nat) (before after : Scheduler) : Prop :=
  ∃ engines, engines.Perm (before.config.engines.filter (·.runlist = list)) ∧
    Restarts engines before after

/-- What resets no engine may follow, however it ends. -/
theorem RestartsList.then_none {α : Type} {operation : Operation Scheduler α}
    (restarts : RestartsList list before middle) (none : Respects (Restarts []) operation) :
    operation.Yields middle (fun _ after => RestartsList list before after)
      fun _ after => RestartsList list before after := by
  obtain ⟨engines, struck, first⟩ := restarts
  exact (respects_iff_yields.mp none middle).mono
    (fun _ _ later => ⟨engines, struck, first.then_none later⟩)
    fun _ _ later => ⟨engines, struck, first.then_none later⟩

/-- Recovery of the engines of a runlist resets them all, and no others. -/
theorem yields_restartsList (fit : scheduler.Fit)
    (firsts : ∀ engine ∈ scheduler.config.engines, engine.runlist = list →
      scheduler.config.engines.find? (·.faultId = engine.faultId) = some engine) :
    (recoverRunlistEngines list).Yields scheduler
      (fun _ after => RestartsList list scheduler after) fun _ _ => False := by
  have inWord : ∀ faultId ∈ (scheduler.config.engines.filter (·.runlist = list)).map (·.faultId),
      faultId < 32 := by
    intro faultId mem
    obtain ⟨engine, isHere, rfl⟩ := List.mem_map.mp mem
    exact (fit.engineFits (List.mem_of_mem_filter isHere)).faultId
  obtain ⟨faults, masks, bits⟩ := maskOf_eq inWord
  unfold recoverRunlistEngines
  rw [yields_bind, yields_get]
  dsimp only
  rw [yields_bind, masks, yields_lift_ok]
  refine (yields_forced fit { faults, target := none, reason := .runlistTimeout }).imp ?_
  intro _ after forced
  refine ⟨_, struckEngines_perm fit (List.nodup_range.filter _) ?_ ?_, forced.restarts⟩
  · exact fun engine mem here => firsts engine mem (decide_eq_true_iff.mp here)
  · exact fun faultId => (bits faultId).trans List.mem_map

/-- After a first wait that ran out the engines of the runlist are reset and no others, however the
second wait ends. -/
theorem yields_recoverStalled (fit : scheduler.Fit)
    (firsts : ∀ engine ∈ scheduler.config.engines, engine.runlist = list →
      scheduler.config.engines.find? (·.faultId = engine.faultId) = some engine) :
    (recoverStalled list).Yields scheduler (fun _ after => RestartsList list scheduler after)
      fun _ after => RestartsList list scheduler after := by
  unfold recoverStalled
  rw [yields_bind]
  refine (yields_restartsList fit firsts).mono ?_ fun _ _ => False.elim
  intro targets recovered restarts
  refine restarts.then_none ((restarts_dropTargets list targets).bind fun _ => ?_)
  refine (restarts_of_calm (calm_waitRunlist list)).bind fun done => ?_
  cases done with
  | true => exact respects_pure ()
  | false => exact respects_refuse _

/-- An update whose first wait runs out resets the engines of its runlist and no others, however it
ends. -/
theorem restartsList_of_timesOut (sound : scheduler.Sound exact)
    (firsts : ∀ engine ∈ scheduler.config.engines, engine.runlist = list →
      scheduler.config.engines.find? (·.faultId = engine.faultId) = some engine)
    (overdue : scheduler.timesOut list id add = true) :
    RestartsList list scheduler (updateRunlist list id add true scheduler).2 := by
  obtain ⟨count, handed, waited, run, waits⟩ := exists_of_timesOut overdue
  have quiet := ((yields_handUpdate_quiet sound list id add).of_ok run).1
  have hands := (brief_restarts list).handUpdate id add scheduler
  have calm := calm_waitRunlist list handed
  have idles := idles_waitRunlist list handed
  rw [run] at hands
  rw [waits] at calm idles
  have soFar : Restarts [] scheduler waited := hands.after_none calm.restarts
  have config : waited.config = scheduler.config := idles.config.trans quiet.config
  have whole : updateRunlist list id add true scheduler =
      (recoverStalled list >>= fun _ => swapBuffers list count) waited := by
    rw [updateRunlist_eq, run_bind_of_ok run, run_bind (recoverStalled list),
      ← awaitPickup_of_overdue waits, ← run_bind]
    rfl
  have swaps : Respects (Restarts []) (swapBuffers list count) :=
    (refills_swapBuffers list count).mono fun _ _ refills => restarts_of_same refills.machine
  have recovers : (recoverStalled list >>= fun _ => swapBuffers list count).Yields waited
      (fun _ after => RestartsList list waited after)
      fun _ after => RestartsList list waited after := by
    rw [yields_bind]
    refine (yields_recoverStalled (idles.toStays.fit quiet.sound.shaped.fit)
      (by rwa [config])).mono ?_ fun _ _ restarts => restarts
    exact fun _ recovered restarts => restarts.then_none swaps
  obtain ⟨engines, struck, restarts⟩ := recovers.holds
  rw [config] at struck
  rw [whole]
  exact ⟨engines, struck, soFar.after_none restarts⟩

/-- The channels that a wait for a list comes to fault are those that the faults of the engines of
the runlist are blamed on. -/
theorem yields_awaitPickup_faultsOnly (sound : scheduler.Sound exact)
    (listed : scheduler.runlists.contains list = true) :
    (awaitPickup list).Yields scheduler
      (fun _ after => FaultsOnly exact (scheduler.stalled list) scheduler after)
      fun _ after => FaultsOnly exact (scheduler.stalled list) scheduler after := by
  obtain ⟨runlist, found⟩ := exists_runlist listed
  refine (yields_awaitPickup_stops sound (sound.shaped.inRange found)).mono ?_ ?_
  · rintro _ after ⟨soundAfter, quiet | stops⟩
    · exact (quiet.faultsOnly soundAfter).of_quiet
    · exact stops.faultsOnly soundAfter
  · rintro _ after ⟨-, soundAfter, stops⟩
    exact stops.faultsOnly soundAfter

/-- The buffers of a runlist change places, and nobody is faulted. -/
theorem yields_swapBuffers_faultsOnly (faults : FaultsOnly exact blamed before middle)
    (listed : before.runlists.contains list = true) (count : Nat) :
    (swapBuffers list count).Yields middle
      (fun _ after => FaultsOnly exact blamed before after) fun _ _ => False := by
  refine (yields_swapBuffers faults.sound (by rwa [faults.listed]) count).imp ?_
  rintro _ after ⟨soundAfter, stops⟩
  exact faults.then_quiet (stops.faultsOnly soundAfter)

/-- The channels that an update comes to fault are those that the faults of the engines of the
runlist are blamed on. -/
theorem yields_updateRunlist_faultsOnly (sound : scheduler.Sound exact) (list : Nat)
    (id : Option Nat) (add wait : Bool) :
    (updateRunlist list id add wait).Yields scheduler
      (fun _ after => FaultsOnly exact (scheduler.stalled list) scheduler after)
      fun _ after => FaultsOnly exact (scheduler.stalled list) scheduler after := by
  rw [updateRunlist_eq, yields_bind]
  refine (yields_handUpdate_quiet sound list id add).mono ?_ ?_
  · rintro answer handed ⟨quiet, listed⟩
    cases answer with
    | none => exact quiet.of_quiet
    | some count =>
      have swaps : ∀ {picked : Scheduler},
          FaultsOnly exact (scheduler.stalled list) scheduler picked →
          (swapBuffers list count).Yields picked
            (fun _ after => FaultsOnly exact (scheduler.stalled list) scheduler after)
            fun _ after => FaultsOnly exact (scheduler.stalled list) scheduler after :=
        fun faults => (yields_swapBuffers_faultsOnly faults (by rwa [← quiet.listed]) count).mono
          (fun _ _ whole => whole) fun _ _ => False.elim
      cases wait with
      | false => exact swaps quiet.of_quiet
      | true =>
        change (awaitPickup list >>= fun _ => swapBuffers list count).Yields handed _ _
        have awaits := yields_awaitPickup_faultsOnly quiet.sound listed
        rw [stalled_eq sound.shaped quiet.toSteady quiet.words] at awaits
        rw [yields_bind]
        exact awaits.mono (fun _ _ faults => swaps (quiet.after_quiet faults))
          fun _ _ faults => quiet.after_quiet faults
  · rintro _ _ rfl
    exact ((Stops.refl _ _).faultsOnly sound).of_quiet

/-- Where each engine of a runlist is the first one with its fault, the faults of the runlist are
blamed on what its engines run. -/
theorem mem_stalled_of_firsts
    (firsts : ∀ engine ∈ scheduler.config.engines, engine.runlist = list →
      scheduler.config.engines.find? (·.faultId = engine.faultId) = some engine) {channel : Nat} :
    channel ∈ scheduler.stalled list ↔ ∃ engine ∈ scheduler.config.engines,
      engine.runlist = list ∧ channel ∈ scheduler.runningContext engine := by
  refine exists_congr fun engine => and_congr_right fun mem => and_congr_right fun here => ?_
  rw [blamedOr_of_first (firsts engine mem here)]
  unfold runningContext channelsOf
  cases Option.map scheduler.normalize (scheduler.statusOf engine.id).faulting with
  | none => simp
  | some target => simp

end Scheduler

namespace Session

variable {config : Config} {machine : Machine} {usual : Scheduler → Prop} {session : Session}
  {list : Nat} {id : Option Nat} {add : Bool}

/-- Along every run, when the first wait of an update runs out and each engine of the runlist is the
first one with its fault, the update resets the engines of the runlist and no others, and the
channels that it comes to fault belong to what these engines blame. -/
theorem reached_overdue (reached : Reached config machine usual session)
    (firsts : ∀ engine ∈ config.engines, engine.runlist = list →
      config.engines.find? (·.faultId = engine.faultId) = some engine)
    (overdue : session.scheduler.timesOut list id add = true) :
    let after := (perform (.update list id add true) session).2.scheduler
    (∃ engines, engines.Perm (config.engines.filter (·.runlist = list)) ∧
        Scheduler.Restarts engines session.scheduler after) ∧
      ∀ (channel : Nat) (held : Channel), after.channels[channel]? = some held →
        held.state = .faulted →
          (∃ engine ∈ config.engines, engine.runlist = list ∧
            channel ∈ session.scheduler.runningContext engine) ∨
          session.scheduler.channels[channel]? = some held := by
  obtain ⟨intact, rfl⟩ := reached.intact False fun _ _ _ => False.elim
  have whole : perform (.update list id add true) session = _ :=
    call_done (Scheduler.updateRunlist list id add true) session
  have faults := (Scheduler.yields_updateRunlist_faultsOnly intact.sound list id add true).holds
  rw [whole]
  refine ⟨Scheduler.restartsList_of_timesOut intact.sound firsts overdue, ?_⟩
  intro channel held found faulted
  exact (faults.faulted channel held found faulted).imp_left
    (Scheduler.mem_stalled_of_firsts firsts).mp

/-- The second runlist hangs, and each engine runs a channel of its runlist. -/
def secondHangs : List Request :=
  [.bind 0 { runlist := 0 }, .bind 1 { runlist := 1 }, .bind 2 { runlist := 1 },
    .inject (.engineStatus 0 (.running (.channel 0))),
    .inject (.engineStatus 1 (.running (.channel 1))), .inject (.hangRunlist 1 .untilReset)]

/-- The engine of the runlist that hangs is reset, and the other one is not. -/
theorem second_reset_of_hang : ∃ session, Reached twoLists poweredUp (fun _ => True) session ∧
    session.scheduler.timesOut 1 (some 2) true = true ∧
    Scheduler.Restarts [{ id := 1, kind := .copy, runlist := 1 }] session.scheduler
      (perform (.update 1 (some 2) true true) session).2.scheduler := by
  have outcome : (Scheduler.create twoLists poweredUp).toOption.map (fun scheduler =>
      (performAll { scheduler } secondHangs).scheduler.timesOut 1 (some 2) true) = some true := by
    decide +kernel
  obtain ⟨scheduler, created, overdue⟩ := exists_created outcome
  have reached : Reached twoLists poweredUp (fun _ => True)
      (performAll { scheduler } secondHangs) :=
    (Reached.created created).performAll fun _ _ => trivial
  obtain ⟨⟨engines, struck, restarts⟩, -⟩ := reached_overdue reached (by decide) overdue
  rw [show twoLists.engines.filter (·.runlist = 1) = [{ id := 1, kind := .copy, runlist := 1 }] by
    decide, List.perm_singleton] at struck
  rw [struck] at restarts
  exact ⟨_, reached, overdue, restarts⟩

/-- Two engines on different runlists report the same fault: when the list of the second one is not
picked up, the first one is reset in its place, and the channel of the other runlist that it runs is
faulted. -/
theorem first_reset_of_shared_fault : ∃ session,
    Reached sharedFault poweredUp (fun _ => True) session ∧
      session.scheduler.timesOut 1 (some 2) true = true ∧
      (perform (.update 1 (some 2) true true) session).2.scheduler.machine.bus.hardware.resets =
        [0] ∧
      (perform (.update 1 (some 2) true true) session).2.scheduler.channels.map (·.state) =
        #[.faulted, .bound, .active] := by
  have outcome : (Scheduler.create sharedFault poweredUp).toOption.map (fun scheduler => decide
      ((performAll { scheduler } secondHangs).scheduler.timesOut 1 (some 2) true = true ∧
        (perform (.update 1 (some 2) true true) (performAll { scheduler }
          secondHangs)).2.scheduler.machine.bus.hardware.resets = [0] ∧
        (perform (.update 1 (some 2) true true)
          (performAll { scheduler } secondHangs)).2.scheduler.channels.map (·.state) =
            #[.faulted, .bound, .active])) = some true := by decide +kernel
  obtain ⟨scheduler, created, holds⟩ := exists_created outcome
  obtain ⟨overdue, resets, states⟩ := decide_eq_true_iff.mp holds
  exact ⟨_, (Reached.created created).performAll fun _ _ => trivial, overdue, resets, states⟩

end Session

end GpuSched
