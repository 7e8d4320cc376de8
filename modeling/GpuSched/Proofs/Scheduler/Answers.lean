import GpuSched.Proofs.Scheduler.Transitions

/-!
# Requests answer

Whatever the registers hold and whichever numbers a client names, a request ends in a reply or a
refusal, as long as the clock can tell the times of its waits. It can abort only where a count has
no room left: a run keeps the references of a channel equal to the number of its handles and counts
at most one event for each request, so this takes more requests than a word can count. Nor is a list
longer than its buffer: each list that the hardware is handed has at most an entry for each channel
and group.
-/
namespace GpuSched

open Operation

namespace Scheduler

variable {scheduler before middle after : Scheduler} {list count : Nat} {runlist : Runlist}

/-- Where the hardware reads the same buffers, its lists lie within them. -/
theorem Legible.same (legible : before.Legible) (same : SameFronts before after) :
    after.Legible := by
  intro list runlist found
  have fronts := same list
  rw [found, Option.map_some] at fronts
  obtain ⟨held, holds, front⟩ := Option.map_eq_some_iff.mp fronts.symm
  have current : held.current = runlist.current := congrArg Prod.fst front
  have entries : held.count = runlist.count := congrArg Prod.snd front
  rw [← current, ← entries]
  exact legible list held holds

/-- The entries that were written had their place in the buffer. -/
theorem length_le_of_writeEntries {buffer written : DmaBuffer} {index : Nat}
    {entries : List RunlistEntry} (writes : writeEntries buffer index entries = .ok written) :
    written.wordCount = buffer.wordCount ∧
      (entries ≠ [] → 2 * (index + entries.length) ≤ buffer.wordCount) := by
  induction entries generalizing buffer index with
  | nil =>
    cases writes
    exact ⟨rfl, fun impossible => absurd rfl impossible⟩
  | cons entry rest ih =>
    unfold writeEntries at writes
    obtain ⟨first, one, writes⟩ := bind_eq_ok_iff.mp writes
    obtain ⟨second, two, writes⟩ := bind_eq_ok_iff.mp writes
    unfold DmaBuffer.write at one two
    split at one
    · cases one
      split at two
      · rename_i inside
        cases two
        obtain ⟨size, fits⟩ := ih writes
        refine ⟨size, fun _ => ?_⟩
        change 2 * index + 1 < buffer.wordCount at inside
        change rest ≠ [] → 2 * (index + 1 + rest.length) ≤ buffer.wordCount at fits
        rw [List.length_cons]
        cases rest with
        | nil =>
          rw [List.length_nil]
          omega
        | cons next rest =>
          have room := fits (List.cons_ne_nil _ _)
          omega
      · cases two
    · cases one

/-- A runlist is replaced by one whose list lies within its buffer. -/
theorem Legible.insert (legible : scheduler.Legible)
    (fits : 2 * runlist.count ≤ runlist.current.wordCount) :
    ({ scheduler with runlists := scheduler.runlists.insert list runlist }).Legible := by
  intro other held found
  change (scheduler.runlists.insert list runlist).find? other = some held at found
  rw [Table.find?_insert] at found
  split at found
  · cases found
    exact fits
  · exact legible other held found

/-- A list of some length has its place in the spare buffer of a runlist. -/
def Spares (list count : Nat) (scheduler : Scheduler) : Prop :=
  scheduler.Legible ∧ ∃ runlist, scheduler.runlists.find? list = some runlist ∧
    2 * count ≤ runlist.spare.wordCount

/-- It keeps its place where every buffer stays. -/
theorem Spares.same (spares : before.Spares list count) (same : SameBuffers before after) :
    after.Spares list count := by
  obtain ⟨legible, runlist, found, room⟩ := spares
  have buffers := same list
  rw [found, Option.map_some] at buffers
  obtain ⟨held, holds, equal⟩ := Option.map_eq_some_iff.mp buffers
  have spare : held.spare = runlist.spare := congrArg (·.2.1) equal
  exact ⟨legible.same same.fronts, held, holds, by rwa [spare]⟩

/-- The list of what is active is written, if the spare buffer has a place for it. -/
theorem yields_writeList_spares (legible : scheduler.Legible) (list : Nat) :
    (writeList list).Yields scheduler (fun count after => after.Spares list count)
      fun _ after => after.Legible := by
  unfold writeList putRunlist
  rw [yields_bind, yields_runlist]
  cases found : scheduler.runlists.find? list with
  | none => exact legible
  | some runlist =>
    dsimp only
    rw [yields_bind, yields_get, yields_bind, yields_lift]
    split
    · rename_i entries _
      rw [yields_bind, yields_lift]
      split
      · rename_i spare writes
        obtain ⟨size, room⟩ := length_le_of_writeEntries writes
        refine ⟨legible.insert (legible list runlist found), { runlist with spare }, ?_, ?_⟩
        · exact (Table.find?_insert ..).trans (if_pos rfl)
        · change 2 * entries.length ≤ spare.wordCount
          rw [size]
          by_cases empty : entries = []
          · rw [empty]
            exact Nat.zero_le _
          · have inside := room empty
            rwa [Nat.zero_add] at inside
      · exact legible
    · exact legible

/-- A list is handed over, and the buffers change places. -/
theorem legible_handOver (spares : scheduler.Spares list count) (wait : Bool) :
    (handOver list count wait).Yields scheduler (fun _ after => after.Legible)
      fun _ after => after.Legible := by
  have swaps : ∀ {state : Scheduler}, state.Spares list count →
      (swapBuffers list count).Yields state (fun _ after => after.Legible)
        fun _ after => after.Legible := by
    rintro state ⟨legible, runlist, found, room⟩
    unfold swapBuffers putRunlist
    rw [yields_bind, yields_runlist, found]
    exact legible.insert room
  obtain ⟨legible, runlist, found, room⟩ := spares
  unfold handOver
  rw [yields_bind, yields_runlist, found]
  dsimp only
  rw [yields_bind]
  refine (yields_onBus_runlists _ scheduler).mono ?_ ?_
  · intro _ middle same
    have still : middle.Spares list count :=
      ⟨legible.same fun other => by rw [same], runlist, by rw [same, found], room⟩
    cases wait with
    | false => exact swaps still
    | true =>
      rw [if_pos rfl, yields_bind]
      have rests : Respects (Rests list) (awaitPickup list) := rests_awaitPickup list
      refine (respects_iff_yields.mp rests middle).mono ?_ ?_
      · exact fun _ after rests => swaps (still.same rests.buffers)
      · exact fun _ after rests => (still.same rests.buffers).1
  · exact fun _ middle same => legible.same fun other => by rw [same]

/-- Updates keep lists within their buffers. -/
theorem legible_updateRunlist (list : Nat) (id : Option Nat) (add wait : Bool) :
    Respects (Kept Legible) (updateRunlist list id add wait) := by
  have submits : ∀ suspend, Respects (Kept Legible) (submitList list suspend wait) := by
    intro suspend state legible
    refine Yields.holds ?_
    rw [submitList_eq, yields_bind]
    cases suspend with
    | false =>
      exact (yields_writeList_spares legible list).mono
        (fun _ _ spares => legible_handOver spares wait) fun _ _ legible => legible
    | true =>
      change (handOver list 0 wait).Yields state _ _
      cases found : state.runlists.find? list with
      | some runlist => exact legible_handOver ⟨legible, runlist, found, Nat.zero_le _⟩ wait
      | none =>
        unfold handOver
        rw [yields_bind, yields_runlist, found]
        exact legible
  have sets : ∀ id, Respects (Kept Legible) (setActive list id add) := fun id =>
    (shifts_setActive list id add).mono fun _ _ shifts legible => legible.same shifts.buffers.fronts
  refine (reads_runlist list).respects.bind fun _ => ?_
  cases id with
  | none => exact submits (!add)
  | some id =>
    refine (sets id).bind fun changed => ?_
    cases changed with
    | true => exact submits false
    | false => exact respects_pure _

/-- What is kept beside updates, by updates and by events is kept by every script. -/
theorem respects_script {related : Scheduler → Scheduler → Prop} [IsPreorder Scheduler related]
    {allowed : (α : Type) → Act α → Prop} {α : Type}
    (stays : ∀ before after, Stays before after → related before after)
    (updates : ∀ (list : Nat) (id : Option Nat) (add wait : Bool),
      Respects related (updateRunlist list id add wait))
    (events : ∀ injection : Injection, Respects related (Act.inject injection))
    (script : Script allowed α) : Respects related script.run := by
  have driven : ∀ {β : Type} {operation : Operation Scheduler β}, Respects Drives operation →
      Respects related operation := fun drives => drives.mono fun _ _ drives =>
    stays _ _ drives.toStays
  refine script.respects ⟨fun _ _ idles => stays _ _ idles.toStays, fun forced => ?_,
    fun list id => updates list (some id) false false⟩ fun α step _ => ?_
  · exact driven (drives_handleFaults forced)
  · cases step with
    | update list id add wait => exact updates list id add wait
    | withdraw list id => exact updates list (some id) false true
    | switch engine disabled => exact driven (drives_setEngineDisabled engine disabled)
    | resets id group => exact driven (drives_runDeferredResets id group)
    | alter operation alters => exact alters.mono fun _ _ alters => stays _ _ alters.toStays
    | event injection => exact events injection

/-- Whatever a script does keeps lists within their buffers. -/
theorem legible_script {allowed : (α : Type) → Act α → Prop} {α : Type}
    (script : Script allowed α) : Respects (Kept Legible) script.run :=
  respects_script (fun _ _ stays legible => legible.same fun list => by rw [stays.runlists])
    legible_updateRunlist (Act.respects_inject fun _ _ legible => legible) script

/-- Whatever a script does changes neither the lengths of waits nor the clock. -/
theorem sameTimes_script {allowed : (α : Type) → Act α → Prop} {α : Type}
    (script : Script allowed α) : Respects SameTimes script.run :=
  respects_script (fun _ _ => Stays.sameTimes) sameTimes_updateRunlist
    (Act.respects_inject fun _ _ => ⟨rfl, rfl⟩) script

end Scheduler

namespace Session

variable {session : Session} {config : Config} {machine : Machine} {request : Request}

/-- A request keeps lists within their buffers. -/
theorem legible_perform (legible : session.scheduler.Legible) (request : Request) :
    (perform request session).2.scheduler.Legible := by
  rw [scheduler_perform]
  exact Scheduler.legible_script (session.plan request) session.scheduler legible

/-- Along a run the clock stays the same. -/
theorem clock_performAll (session : Session) (requests : List Request) :
    (session.performAll requests).scheduler.clock = session.scheduler.clock := by
  induction requests generalizing session with
  | nil => rfl
  | cons request rest ih =>
    refine (ih _).trans ?_
    dsimp only
    rw [scheduler_perform]
    exact (Scheduler.sameTimes_script (session.plan request) session.scheduler).clock

/-- What holds of a session after some requests: its records agree, the references of each channel
are those of its handles as long as they can be counted, and no more events were posted to a channel
than requests were made. -/
structure Accounted (session : Session) (requests : Nat) : Prop where
  intact : session.scheduler.Intact False
  known : session.Known
  legible : session.scheduler.Legible
  handles : session.handles.size ≤ requests
  events : ∀ {id : Nat} {channel : Channel}, session.scheduler.channels[id]? = some channel →
    channel.events ≤ requests
  tallied : requests < 2 ^ 32 → ∀ {id : Nat} {channel : Channel},
    session.scheduler.channels[id]? = some channel → channel.Tallied (session.holders id)

/-- A new session. -/
theorem accounted_created {clock : Clock} {scheduler : Scheduler} (timely : config.Timely clock)
    (created : Scheduler.create config machine clock = .ok scheduler) :
    Accounted { scheduler } 0 := by
  have new : Reached config machine (fun _ => True) { scheduler } := .begun timely created
  obtain ⟨intact, known⟩ := new.known
  obtain ⟨channels, lists⟩ := Scheduler.unused_of_create created
  have unused : ∀ {id : Nat} {channel : Channel}, scheduler.channels[id]? = some channel →
      channel = {} := by
    intro id channel found
    rw [channels, Array.getElem?_replicate] at found
    split at found
    · exact (Option.some.inj found).symm
    · cases found
  refine ⟨intact, known, fun list runlist found => ?_, Nat.zero_le _, fun found => ?_,
    fun _ _ _ found => ?_⟩
  · rw [lists list runlist found]
    exact Nat.zero_le _
  · rw [unused found]
  · rw [unused found]
    exact ⟨rfl, fun _ => rfl⟩

/-- One request more. -/
theorem Accounted.perform {requests : Nat} (accounted : session.Accounted requests)
    (request : Request) : (perform request session).2.Accounted (requests + 1) := by
  obtain ⟨passes, _⟩ := passes_perform accounted.known accounted.intact request
  obtain ⟨intact, config⟩ := intact_perform accounted.intact False.elim request
  have was : ∀ {id : Nat} {next : Channel},
      (Session.perform request session).2.scheduler.channels[id]? = some next →
        ∃ channel, session.scheduler.channels[id]? = some channel ∧
          session.Fares request (Session.perform request session).1
            (Session.perform request session).2 id channel next := by
    intro id next holds
    have below : id < session.scheduler.channels.size := by
      have inTable := intact.sound.shaped.channel_lt holds
      rwa [config, ← accounted.intact.sound.shaped.channels] at inTable
    obtain ⟨held, there, fares⟩ := passes.found (Array.getElem?_eq_getElem below)
    cases holds.symm.trans there
    exact ⟨_, Array.getElem?_eq_getElem below, fares⟩
  refine ⟨intact, passes.known, legible_perform accounted.legible request, ?_, fun holds => ?_,
    fun room _ _ holds => ?_⟩
  · exact passes.size.trans (Nat.succ_le_succ accounted.handles)
  · obtain ⟨channel, found, fares⟩ := was holds
    exact fares.events.trans (Nat.succ_le_succ (accounted.events found))
  · obtain ⟨channel, found, fares⟩ := was holds
    have few := accounted.handles
    exact fares.tallied (by omega) (accounted.tallied (by omega) found)

/-- All the requests of a run. -/
theorem Accounted.performAll {made : Nat} (accounted : session.Accounted made)
    (requests : List Request) :
    (session.performAll requests).Accounted (made + requests.length) := by
  induction requests generalizing session made with
  | nil => exact accounted
  | cons request rest ih =>
    rw [List.length_cons, Nat.add_comm rest.length, ← Nat.add_assoc]
    exact ih (accounted.perform request)

/-- A count runs out of room only after more requests than a word can count. -/
theorem Accounted.of_exhausts {requests : Nat} {reason : Abort}
    (accounted : session.Accounted requests) (exhausts : session.Exhausts request reason) :
    2 ^ 32 ≤ requests + 1 := by
  by_contra! few
  cases exhausts with
  | shared found full =>
    have counted := (accounted.tallied (by omega) found).references
    rw [full] at counted
    have most := counted.trans_le (session.holders_le _)
    have handles := accounted.handles
    change 0xffffffff ≤ _ at most
    omega
  | dropped holds found none =>
    have counted := (accounted.tallied (by omega) found).references
    rw [none, holders_erase holds, if_pos rfl] at counted
    exact absurd counted.symm (Nat.succ_ne_zero _)
  | posted full =>
    obtain ⟨id, channel, found, full⟩ := full
    have events := accounted.events found
    unfold Channel.EventsFull Checked.limit64 at full
    omega

/-- The lists that a request hands over are recorded by the hardware, and have at most an entry for
each channel and group. -/
theorem fits_of_mem (intact : session.scheduler.Intact False) :
    ∀ handed ∈ session.handedLists request, handed.Submitted ∧
      handed.count ≤ session.scheduler.config.channelCount +
        session.scheduler.config.groupCount := by
  cases recovers : request.recovers with
  | false =>
    refine forall_handedLists_of_calm (fun intact same => fun handed mem => ?_) intact recovers
    obtain ⟨rfl, middle, first, hands⟩ := Scheduler.of_mem_handedLists intact.sound mem
    have config : middle.config = session.scheduler.config := by
      rcases first with rfl | ⟨_, _, toggled⟩
      · exact same
      · exact toggled.toSteady.config.trans same
    exact ⟨hands.submitted, config ▸ hands.fits⟩
  | true =>
    intro handed mem
    obtain ⟨before, later, lists⟩ := List.append_of_mem mem
    have passes := Script.passes (fun _ step isFor => pauses_of_recovers recovers step isFor)
      (session.plan request) intact.sound ⟨before, lists.symm⟩
    exact ⟨passes.submitted, passes.fits⟩

/-- So many handles, numbered from zero, stand for the first channel, and its references are
counted. -/
structure Shared (session : Session) (count : Nat) : Prop where
  first : session.handles.find? 0 = some 0
  fresh : ∀ handle, count ≤ handle → session.handles.contains handle = false
  counted : (session.scheduler.channels[0]?).map (·.references) = some (UInt32.ofNat count)

/-- One handle more. -/
theorem Shared.duplicate {count : Nat} (shared : session.Shared count) :
    (perform (.duplicate count 0) session).2.Shared (count + 1) := by
  obtain ⟨first, fresh, counted⟩ := shared
  obtain ⟨channel, found, references⟩ := Option.map_eq_some_iff.mp counted
  have free : session.handles.contains count = false := fresh count (Nat.le_refl count)
  have unlike : 0 ≠ count := by
    rintro rfl
    unfold Table.contains at free
    rw [first] at free
    cases free
  let shares (channel : Channel) : Channel := { channel with references := channel.references + 1 }
  have run : perform (.duplicate count 0) session = (.ok (.id 0), {
      scheduler := (Scheduler.changeChannel 0 shares session.scheduler).2
      handles := session.handles.insert count 0 }) := by
    have read : (get : Operation Session Session) session = (.ok session, session) := rfl
    unfold perform withHandle file
    simp only [run_bind_of_ok read, free, Bool.false_eq_true, if_false, first]
    rfl
  rw [run]
  refine ⟨?_, fun handle above => ?_, ?_⟩
  · exact (Table.find?_insert ..).trans ((if_neg unlike).trans first)
  · refine (Table.contains_insert ..).trans ((if_neg ?_).trans (fresh handle (by omega)))
    omega
  · dsimp only
    rw [Scheduler.getElem?_changed, if_pos rfl, found, UInt32.ofNat_add, ← references]
    rfl

/-- Many handles more. -/
theorem Shared.performAll {count : Nat} (shared : session.Shared count) (more : Nat) :
    (session.performAll ((List.range' count more).map (.duplicate · 0))).Shared (count + more) := by
  induction more generalizing session count with
  | zero => exact shared
  | succ more ih =>
    rw [List.range'_succ, List.map_cons]
    have next := ih shared.duplicate
    rwa [Nat.add_right_comm, Nat.add_assoc] at next

/-- No reference is taken to a channel whose count of references is full. -/
theorem Shared.retain_full (shared : session.Shared 0xffffffff) :
    (perform (.retain 0xffffffff 0) session).1 = .error (.aborted .overflow) := by
  obtain ⟨channel, found, counted⟩ := Option.map_eq_some_iff.mp shared.counted
  have full : channel.references = 0xffffffff := counted
  have some : channel.references ≠ 0 := by
    rw [full]
    decide
  have stops : (perform (.retain 0xffffffff 0)).Yields session (fun _ _ => False)
      fun failure _ => failure = .aborted .overflow := by
    unfold perform file call Scheduler.retain
    rw [yields_bind, yields_get, shared.fresh _ (Nat.le_refl _), if_neg Bool.false_ne_true,
      yields_bind, yields_bind, yields_focus, yields_bind, Scheduler.yields_channel, found]
    dsimp only
    rw [if_neg some, if_pos full]
    rfl
  rcases run : perform (.retain 0xffffffff 0) session with ⟨failure | reply, after⟩
  · exact congrArg Except.error (stops.of_error run)
  · exact (stops.of_ok run).elim

/-- One handle stands for the first channel, and its reference is counted. -/
theorem shared_one (handles : session.handles.entries = [(0, 0)])
    (counted : (session.scheduler.channels[0]?).map (·.references) = some 1) :
    session.Shared 1 := by
  refine ⟨?_, fun handle above => ?_, counted⟩
  · unfold Table.find?
    rw [handles]
    rfl
  · have apart : handle ≠ 0 := by omega
    unfold Table.contains Table.find?
    rw [handles]
    simp [Table.lookup, apart.symm]

/-- A run that can be computed shows where its last request is stopped by an overflow. -/
theorem exists_stopped {clock : Clock} {requests : List Request}
    (outcome : (Scheduler.create config machine clock).toOption.map (fun scheduler => decide
      ((perform request (performAll { scheduler } requests)).1 = .error (.aborted .overflow))) =
        some true) :
    ∃ scheduler, Scheduler.create config machine clock = .ok scheduler ∧
      (perform request (performAll { scheduler } requests)).1 = .error (.aborted .overflow) := by
  obtain ⟨scheduler, created, stops⟩ := exists_created outcome
  exact ⟨scheduler, created, of_decide_eq_true stops⟩

/-- After every run on any hardware, by a clock that can tell the times of its waits, a request that
is no event of the hardware itself ends in a reply or a refusal, unless a count has no room left,
for which more requests must have been made than a word can count. The lists that it hands over are
those that the hardware records, and each has at most one entry for each channel and group. -/
theorem perform_answers {clock : Clock} {scheduler : Scheduler} (timely : config.Timely clock)
    (created : Scheduler.create config machine clock = .ok scheduler) (requests : List Request)
    {request : Request} (calls : ∀ event, request ≠ .inject event)
    (told : request.told clock = true) :
    ((∃ reply, (perform request (performAll { scheduler } requests)).1 = .ok reply) ∨
      (∃ error, (perform request (performAll { scheduler } requests)).1 =
        .error (.refused error)) ∨
      2 ^ 32 ≤ requests.length + 1 ∧ ∃ reason,
        (perform request (performAll { scheduler } requests)).1 = .error (.aborted reason) ∧
          (performAll { scheduler } requests).Exhausts request reason) ∧
    (perform request (performAll { scheduler }
          requests)).2.scheduler.machine.bus.hardware.submissions
        = ((performAll { scheduler } requests).handedLists request).reverse.filterMap
            HandedList.submission? ++
          (performAll { scheduler } requests).scheduler.machine.bus.hardware.submissions ∧
      ∀ handed ∈ (performAll { scheduler } requests).handedLists request, handed.Submitted ∧
        handed.count ≤ config.channelCount + config.groupCount := by
  have accounted := (accounted_created timely created).performAll requests
  rw [Nat.zero_add] at accounted
  have reached : Reached config machine (fun _ => True) (performAll { scheduler } requests) :=
    (Reached.begun timely created).performAll fun _ _ => trivial
  have same := (reached.intact False fun _ _ _ => False.elim).2
  rw [← Scheduler.clock_of_create created, ← clock_performAll { scheduler } requests] at told
  generalize performAll { scheduler } requests = session at accounted same told ⊢
  obtain ⟨_, aborts⟩ := passes_perform accounted.known accounted.intact request
  refine ⟨?_, ?_, ?_⟩
  · cases result : (perform request session).1 with
    | ok reply => exact .inl ⟨reply, rfl⟩
    | error failure =>
      cases failure with
      | refused error => exact .inr (.inl ⟨error, rfl⟩)
      | aborted reason =>
        rcases aborts reason result with exhausts | illegible | untold | ⟨event, isEvent⟩
        · exact .inr (.inr ⟨accounted.of_exhausts exhausts, reason, rfl, exhausts⟩)
        · exact absurd accounted.legible illegible
        · rw [told] at untold
          cases untold
        · exact absurd isEvent (calls event)
  · obtain ⟨handles, run⟩ := carriedOut_perform request session
    rw [run]
    exact (Script.records (session.plan request) accounted.intact.sound.shaped.fit).2
  · rw [← same]
    exact fits_of_mem accounted.intact

/-- An active channel on hardware whose interrupts are all raised, whose engine reports a context
that does not exist, and whose PBDMA reports the channel. -/
def raised : List Request :=
  [.bind 0 { runlist := 0 }, .update 0 (some 0) true false,
    .inject (.word Register.interrupt 0xffffffff), .inject (.word Register.faultPending 0xffffffff),
    .inject (.word (Device.engineStatusOffset 0) 0xffffffff),
    .inject (.pbdmaStatus 0 (.running (.channel 0))), .inject (.pbdmaInterrupt 0 1)]

/-- A clock that can tell the times of the next hour. -/
def hour : Clock := .ending 3600000000

/-- The interrupts are serviced, and the list without the channel is handed over. -/
theorem perform_answers_of_raised : ∃ scheduler,
    oneEngine.Timely hour ∧ Scheduler.create oneEngine poweredUp hour = .ok scheduler ∧
      (∀ event, Request.service ≠ .inject event) ∧ Request.service.told hour = true ∧
      ((∃ reply, (perform .service (performAll { scheduler } raised)).1 = .ok reply) ∨
        ∃ error, (perform .service (performAll { scheduler } raised)).1 =
          .error (.refused error)) ∧
      (performAll { scheduler } raised).handedLists .service ≠ [] ∧
      ∀ handed ∈ (performAll { scheduler } raised).handedLists .service,
        handed.Submitted ∧ handed.count ≤ 3 := by
  have outcome : (Scheduler.create oneEngine poweredUp hour).toOption.map (fun scheduler =>
      !((performAll { scheduler } raised).handedLists .service).isEmpty) = some true := by
    decide +kernel
  obtain ⟨scheduler, created, some⟩ := exists_created outcome
  have timely : oneEngine.Timely hour := by decide
  have calls : ∀ event, Request.service ≠ .inject event := fun _ impossible => by cases impossible
  obtain ⟨answers, -, fits⟩ := perform_answers timely created raised calls rfl
  refine ⟨scheduler, timely, created, calls, rfl, ?_, ?_, fits⟩
  · rcases answers with reply | refusal | ⟨many, -⟩
    · exact .inl reply
    · exact .inr refusal
    · exact absurd many (by decide)
  · rintro empty
    rw [empty] at some
    cases some

/-- Where a limit is met a call aborts: the reference that is one too many is taken, the clock
cannot tell the end of a wait for the hardware or for an event, a pause cannot be doubled, and the
device that a scheduler lends is asked to reset a unit that has no bit. -/
theorem aborts_at_limits :
    (∃ scheduler, Scheduler.create oneEngine poweredUp = .ok scheduler ∧
      (perform (.retain 0xffffffff 0) (performAll { scheduler } (.bind 0 { runlist := 0 } ::
        (List.range' 1 0xfffffffe).map (.duplicate · 0)))).1 = .error (.aborted .overflow)) ∧
    (∃ scheduler, Scheduler.create
        { oneEngine with poll := { runlistTimeout := 2 ^ 64 * 1000000 - 1 } } poweredUp
        (.ending (2 ^ 63 * 1000000)) = .ok scheduler ∧
      (perform (.update 0 (some 0) true true)
        (performAll { scheduler } [.bind 0 { runlist := 0 }])).1 = .error (.aborted .overflow)) ∧
    (∃ scheduler, Scheduler.create
        { oneEngine with
          poll := { backoff := { initial := 2 ^ 63 * 1000000 }, runlistTimeout := 1 } }
        poweredUp (.ending (2 ^ 63 * 1000000)) = .ok scheduler ∧
      (perform (.update 0 none true true)
        (performAll { scheduler } [.inject (.hangRunlist 0 .forever)])).1 =
          .error (.aborted .overflow)) ∧
    (∃ scheduler, Scheduler.create oneEngine poweredUp (.ending (2 ^ 63 * 1000000)) =
        .ok scheduler ∧
      (perform (.wait 0 (2 ^ 64 * 1000000 - 1))
        (performAll { scheduler } [.bind 0 { runlist := 0 }])).1 = .error (.aborted .overflow)) ∧
    (Device.resetUnit 32 poweredUp.bus).1 = .error (.aborted .overflow) := by
  refine ⟨?_, exists_stopped ?_, exists_stopped ?_, exists_stopped ?_, rfl⟩
  · have outcome : (Scheduler.create oneEngine poweredUp).toOption.map (fun scheduler => decide
        ((perform (.bind 0 { runlist := 0 }) { scheduler }).2.handles.entries = [(0, 0)] ∧
          (perform (.bind 0 { runlist := 0 }) { scheduler }).2.scheduler.channels[0]?.map
            (·.references) = some 1)) = some true := by decide +kernel
    obtain ⟨scheduler, created, holds⟩ := exists_created outcome
    obtain ⟨handles, counted⟩ := of_decide_eq_true holds
    have first : ∀ rest, performAll { scheduler } (.bind 0 { runlist := 0 } :: rest) =
        performAll (perform (.bind 0 { runlist := 0 }) { scheduler }).2 rest := fun _ => rfl
    refine ⟨scheduler, created, ?_⟩
    rw [first]
    exact ((shared_one handles counted).performAll 0xfffffffe).retain_full
  all_goals decide +kernel

end Session

end GpuSched
