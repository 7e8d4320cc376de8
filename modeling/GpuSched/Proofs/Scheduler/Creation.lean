import GpuSched.Proofs.Scheduler.Activity

/-!
# New schedulers

The scheduler of a configuration starts with empty active sets, empty groups and full pools, and
each engine has its runlist with room for an entry of every channel and group.
-/
namespace GpuSched

open Operation

/-- The pool of all numbers below a bound holds just those. -/
theorem IdPool.contains_full {count id : Nat} :
    (IdPool.full count).contains id = decide (id < count) := by
  have finds : ∀ ids : List Nat, Table.lookup id (ids.map fun id => (id, ())) =
      if id ∈ ids then some () else none := by
    intro ids
    induction ids with
    | nil => rfl
    | cons first rest ih =>
      rw [List.map_cons, Table.lookup, ih]
      by_cases own : first = id
      · simp [own]
      · simp [own, Ne.symm own]
  unfold Table.contains Table.find?
  change (Table.lookup id ((List.range count).map fun id => (id, ()))).isSome = _
  rw [finds, Bool.eq_iff_iff]
  simp only [List.mem_range, decide_eq_true_iff]
  split <;> simp_all

namespace Scheduler

variable {exact : Prop} {config : Config} {machine : Machine} {scheduler : Scheduler}

/-- A runlist with nothing active or listed and with room for every channel and group. -/
structure Fresh (config : Config) (runlist : Runlist) : Prop where
  shaped : runlist.Shaped config.channelCount config.groupCount
  count : runlist.count = 0
  channels : ∀ id, runlist.activeChannels.member id = false
  groups : ∀ id, runlist.activeGroups.member id = false

/-- A buffer of the pool has the words that were asked for. -/
theorem yields_allocate (pool : MemoryPool) (size : Nat) :
    (MemoryPool.allocate size).Yields pool (fun buffer _ => size / 4 ≤ buffer.wordCount)
      fun _ _ => True := by
  unfold MemoryPool.allocate
  rw [yields_bind, yields_get]
  dsimp only
  split
  · change size / 4 ≤ ((size + 3) / 4 * 4 + pool.excess pool.requested.length) / 4
    omega
  · trivial

/-- A runlist that can be opened is fresh. -/
theorem yields_openRunlist (config : Config) (machine : Machine) :
    (openRunlist config).Yields machine (fun runlist _ => Fresh config runlist)
      fun _ _ => True := by
  have allocates : ∀ machine : Machine,
      ((MemoryPool.allocate ((config.channelCount + config.groupCount) * 8)).focus (·.memory)
        ({ · with memory := · }) : Operation Machine DmaBuffer).Yields machine
        (fun buffer _ => 2 * (config.channelCount + config.groupCount) ≤ buffer.wordCount)
        fun _ _ => True := by
    intro machine
    rw [yields_focus]
    refine (yields_allocate machine.memory _).imp fun buffer _ enough => ?_
    omega
  unfold openRunlist
  dsimp only
  rw [yields_bind]
  refine (allocates machine).imp fun current after currentRoom => ?_
  rw [yields_bind, yields_attempt]
  refine (allocates after).mono (fun spare _ spareRoom => ?_) fun failure _ _ => ?_
  · refine ⟨⟨rfl, rfl, Bitmap.bounded_empty _, Bitmap.bounded_empty _, currentRoom, spareRoom⟩,
      rfl, Bitmap.member_empty _, Bitmap.member_empty _⟩
  · cases failure with
    | aborted reason => trivial
    | refused error =>
      dsimp only
      rw [yields_bind]
      exact yields_of_forall (fun _ _ => trivial) fun _ _ => trivial

/-- Fresh runlists with numbers that fit. -/
def AllFresh (config : Config) (opened : Table Runlist) : Prop :=
  ∀ id runlist, opened.find? id = some runlist → id < 16 ∧ Fresh config runlist

/-- The runlists of all engines are opened. -/
theorem yields_openRunlists {engines : List Engine}
    (fits : ∀ engine ∈ engines, Config.EngineFits engine) {opened : Table Runlist}
    (fresh : AllFresh config opened) :
    (openRunlists config engines opened).Yields machine
      (fun runlists _ => AllFresh config runlists ∧
        (∀ id, opened.contains id = true → runlists.contains id = true) ∧
        ∀ engine ∈ engines, runlists.contains engine.runlist = true)
      fun _ _ => True := by
  induction engines generalizing opened machine with
  | nil => exact ⟨fresh, fun _ => id, fun _ mem => by cases mem⟩
  | cons engine rest ih =>
    have fitsRest : ∀ other ∈ rest, Config.EngineFits other :=
      fun other mem => fits other (List.mem_cons_of_mem _ mem)
    unfold openRunlists
    split
    · rename_i there
      refine (ih fitsRest fresh).imp ?_
      rintro runlists _ ⟨allFresh, keeps, listed⟩
      refine ⟨allFresh, keeps, fun other mem => ?_⟩
      rcases List.mem_cons.mp mem with rfl | later
      · exact keeps _ there
      · exact listed other later
    · rw [yields_bind, yields_attempt]
      refine (yields_openRunlist config machine).mono ?_ ?_
      · intro runlist after isFresh
        have freshNow : AllFresh config (opened.insert engine.runlist runlist) := by
          intro id held found
          rw [Table.find?_insert] at found
          split at found
          · rename_i own
            rw [Option.some.injEq] at found
            rw [own, ← found]
            exact ⟨(fits engine List.mem_cons_self).runlist, isFresh⟩
          · exact fresh id held found
        have adds : ∀ id, (opened.insert engine.runlist runlist).contains id =
            if id = engine.runlist then true else opened.contains id := fun id =>
          Table.contains_insert ..
        refine (ih fitsRest freshNow).imp ?_
        rintro runlists _ ⟨allFresh, keeps, listed⟩
        refine ⟨allFresh, fun id there => keeps id ?_, fun other mem => ?_⟩
        · rw [adds]
          split
          · rfl
          · exact there
        · rcases List.mem_cons.mp mem with rfl | later
          · refine keeps _ ?_
            rw [adds, if_pos rfl]
          · exact listed other later
      · intro failure after _
        cases failure with
        | aborted reason => trivial
        | refused error =>
          dsimp only
          rw [yields_bind]
          exact yields_of_forall (fun _ _ => trivial) fun _ _ => trivial

/-- What a configuration is prepared with. -/
theorem yields_prepare (config : Config) (machine : Machine) :
    (prepare config).Yields machine
      (fun runlists _ => config.fault? = none ∧ AllFresh config runlists ∧
        ∀ engine ∈ config.engines, runlists.contains engine.runlist = true)
      fun _ _ => True := by
  unfold prepare Config.validate
  rw [yields_bind]
  cases accepted : config.fault? with
  | some fault => trivial
  | none =>
    have fits := (Config.fits_of_fault accepted).2.2
    have none : AllFresh config .empty := fun id runlist found => by cases found
    rw [yields_lift_ok, yields_bind]
    refine (yields_openRunlists fits none).imp ?_
    rintro runlists after ⟨fresh, _, listed⟩
    rw [yields_bind]
    exact yields_of_forall (fun _ _ => ⟨rfl, fresh, listed⟩) fun _ _ => trivial

/-- In a new scheduler nothing is in use. -/
theorem enrollment_new {runlists : Table Runlist} (fresh : AllFresh config runlists)
    (machine : Machine) (clock : Clock) :
    Scheduler.enrollment {
        config, machine, runlists, clock
        channels := Array.replicate config.channelCount {}
        groups := Array.replicate config.groupCount {}
        freeChannels := .full config.channelCount
        freeGroups := .full config.groupCount } =
      .unused config.channelCount config.groupCount runlists.contains := by
  unfold enrollment Enrollment.unused
  congr 1
  · funext id
    rw [Array.getElem?_replicate]
    split <;> rfl
  · funext id
    rw [Array.getElem?_replicate]
    split <;> rfl
  · funext list id
    unfold activeOn
    split
    · rename_i runlist found
      exact (fresh list runlist found).2.channels id
    · rfl
  · funext list id
    unfold groupActiveOn
    split
    · rename_i runlist found
      exact (fresh list runlist found).2.groups id
    · rfl
  · funext id
    exact IdPool.contains_full
  · funext id
    exact IdPool.contains_full

/-- In a scheduler that is created no slot has been used, and nothing is listed. -/
theorem unused_of_create {clock : Clock} (created : create config machine clock = .ok scheduler) :
    scheduler.channels = Array.replicate config.channelCount {} ∧
      ∀ list runlist, scheduler.runlists.find? list = some runlist → runlist.count = 0 := by
  have prepared := yields_prepare config machine
  unfold create at created
  unfold Yields at prepared
  cases run : prepare config machine with
  | mk result after =>
    rw [run] at prepared created
    cases result with
    | error failure => cases created
    | ok runlists =>
      obtain ⟨_, fresh, _⟩ := prepared
      cases created
      exact ⟨rfl, fun list runlist found => (fresh list runlist found).2.count⟩

/-- A scheduler that is created goes by the clock that it is given. -/
theorem clock_of_create {clock : Clock} (created : create config machine clock = .ok scheduler) :
    scheduler.clock = clock := by
  unfold create at created
  split at created
  · cases created
  · cases created
    rfl

/-- A scheduler that is created is intact, if its clock can tell the times of its waits. -/
theorem intact_of_create {clock : Clock} (timely : config.Timely clock)
    (created : create config machine clock = .ok scheduler) :
    scheduler.Intact exact ∧ scheduler.config = config := by
  have prepared := yields_prepare config machine
  unfold create at created
  unfold Yields at prepared
  cases run : prepare config machine with
  | mk result after =>
    rw [run] at prepared created
    cases result with
    | error failure => cases created
    | ok runlists =>
      obtain ⟨accepted, fresh, listed⟩ := prepared
      have unused := enrollment_new fresh after clock
      cases created
      refine ⟨⟨⟨?_, ?_, fun _ => ?_⟩, fun _ => ?_⟩, rfl⟩
      · exact ⟨accepted, timely, Array.size_replicate, Array.size_replicate,
          fun found => (fresh _ _ found).1, fun found => (fresh _ _ found).2.shaped, listed⟩
      · rw [unused]
        exact .unused (Config.fits_of_fault accepted).1
      · rw [unused]
        exact .unused
      · rw [unused]
        exact fun _ _ _ _ _ => rfl

end Scheduler

end GpuSched
