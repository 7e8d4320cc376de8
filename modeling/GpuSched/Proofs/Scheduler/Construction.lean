import GpuSched.Proofs.Memory.Pool
import GpuSched.Proofs.Scheduler.Creation
import Mathlib.Data.List.Dedup

/-!
# Buffers of new schedulers

Creation opens a runlist for each number that the engines name, with two buffers each. Where the
pool refuses a buffer, creation closes the runlists that are open and hands on the refusal: every
buffer it was granted has gone back to the pool, and the hardware has not been touched. So a new
scheduler holds its buffers and none is left over, and a refusal leaves none at all.
-/
namespace GpuSched

open Operation

/-- The serial numbers of the two buffers of a runlist. -/
def Runlist.serials (runlist : Runlist) : List Nat :=
  [runlist.current.serial, runlist.spare.serial]

namespace Scheduler

variable {before : MemoryPool} {config : Config} {machine : Machine} {held given refused : List Nat}

/-- The serial numbers of the buffers of some runlists. -/
def serialsOf (runlists : List Runlist) : List Nat := runlists.flatMap Runlist.serials

theorem length_serialsOf (runlists : List Runlist) :
    (serialsOf runlists).length = 2 * runlists.length := by
  induction runlists with
  | nil => rfl
  | cons runlist rest ih =>
    change (runlist.serials ++ serialsOf rest).length = 2 * (rest.length + 1)
    rw [List.length_append, ih, Nat.mul_succ, Nat.add_comm]
    rfl

/-- A refusal that leaves the hardware alone and every buffer accounted for. -/
structure TurnsDown (before : MemoryPool) (machine : Machine) (held refused : List Nat)
    (failure : Failure) (after : Machine) : Prop where
  bus : after.bus = machine.bus
  cause : ∃ error serial, failure = .refused error ∧ before.plan serial = .error error ∧
    ∃ given, before.Accounts after.memory held given (serial :: refused)

/-- A runlist that is closed gives both of its buffers back. -/
theorem yields_closeRunlist {runlist : Runlist}
    (accounts : before.Accounts machine.memory (runlist.serials ++ held) given refused) :
    (closeRunlist runlist).Yields machine
      (fun _ after => after.bus = machine.bus ∧
        ∃ given, before.Accounts after.memory held given refused)
      fun _ _ => False := by
  unfold closeRunlist
  rw [yields_bind, yields_focus]
  refine accounts.yields_release.imp fun _ first firstAccounts => ?_
  rw [yields_focus]
  refine firstAccounts.yields_release.imp fun _ second secondAccounts => ?_
  exact ⟨rfl, _, secondAccounts⟩

/-- Runlists that are closed give all of their buffers back. -/
theorem yields_closeRunlists {runlists : List Runlist}
    (accounts : before.Accounts machine.memory (serialsOf runlists ++ held) given refused) :
    (runlists.forM closeRunlist : Operation Machine PUnit).Yields machine
      (fun _ after => after.bus = machine.bus ∧
        ∃ given, before.Accounts after.memory held given refused)
      fun _ _ => False := by
  induction runlists generalizing machine given with
  | nil => exact ⟨rfl, given, accounts⟩
  | cons runlist rest ih =>
    have apart : before.Accounts machine.memory (runlist.serials ++ (serialsOf rest ++ held)) given
        refused := accounts
    rw [List.forM, yields_bind]
    refine (yields_closeRunlist apart).imp ?_
    rintro _ between ⟨bus, given', accounts⟩
    refine (ih accounts).imp ?_
    rintro _ after ⟨sameBus, returned⟩
    exact ⟨sameBus.trans bus, returned⟩

/-- A runlist that is opened holds two buffers; one that is refused holds none. -/
theorem yields_openRunlist_accounts
    (accounts : before.Accounts machine.memory held given refused) :
    (openRunlist config).Yields machine
      (fun runlist after => after.bus = machine.bus ∧
        before.Accounts after.memory (runlist.serials ++ held) given refused)
      (TurnsDown before machine held refused) := by
  unfold openRunlist
  dsimp only
  rw [yields_bind, yields_focus]
  refine (accounts.yields_allocate _).mono (fun current first firstAccounts => ?_) ?_
  · rw [yields_bind, yields_attempt, yields_focus]
    refine (firstAccounts.yields_allocate _).mono (fun spare second secondAccounts => ?_) ?_
    · exact ⟨rfl, secondAccounts.perm (.swap ..) (.refl _)⟩
    · rintro failure second ⟨error, serial, rfl, planned, secondAccounts⟩
      dsimp only
      rw [yields_bind, yields_focus]
      refine secondAccounts.yields_release.mono (fun _ after afterAccounts => ?_)
        fun _ _ => False.elim
      exact ⟨rfl, error, serial, rfl, planned, _, afterAccounts⟩
  · rintro failure after ⟨error, serial, rfl, planned, afterAccounts⟩
    exact ⟨rfl, error, serial, rfl, planned, _, afterAccounts⟩

/-- The runlists of engines are opened once for each number, or none stays open. -/
theorem yields_openRunlists_accounts {engines : List Engine} {opened : Table Runlist}
    (accounts : before.Accounts machine.memory (serialsOf opened.values) [] []) :
    (openRunlists config engines opened).Yields machine
      (fun runlists after => after.bus = machine.bus ∧
        before.Accounts after.memory (serialsOf runlists.values) [] [] ∧
        ∀ id, runlists.contains id = true ↔
          opened.contains id = true ∨ ∃ engine ∈ engines, engine.runlist = id)
      (TurnsDown before machine [] []) := by
  induction engines generalizing opened machine with
  | nil => exact ⟨rfl, accounts, fun id => by simp⟩
  | cons engine rest ih =>
    unfold openRunlists
    split
    · rename_i there
      refine (ih accounts).imp ?_
      rintro runlists after ⟨bus, afterAccounts, lists⟩
      refine ⟨bus, afterAccounts, fun id => ?_⟩
      have known : engine.runlist = id → opened.contains id = true := fun own => own ▸ there
      rw [lists id, List.exists_mem_cons_iff, or_left_comm]
      exact (or_iff_right_of_imp fun own => .inl (known own)).symm
    · rename_i absent
      have fresh : opened.find? engine.runlist = none := by
        unfold Table.contains at absent
        exact Option.not_isSome_iff_eq_none.mp absent
      rw [yields_bind, yields_attempt]
      refine (yields_openRunlist_accounts accounts).mono ?_ ?_
      · rintro runlist between ⟨bus, openAccounts⟩
        have all : (serialsOf (opened.insert engine.runlist runlist).values).Perm
            (runlist.serials ++ serialsOf opened.values) :=
          (Table.values_insert_perm fresh runlist).flatMap_right _
        refine (ih (openAccounts.perm all (.refl _))).mono ?_ ?_
        · rintro runlists after ⟨sameBus, afterAccounts, lists⟩
          refine ⟨sameBus.trans bus, afterAccounts, fun id => ?_⟩
          have adds : (opened.insert engine.runlist runlist).contains id = true ↔
              engine.runlist = id ∨ opened.contains id = true := by
            rw [Table.contains_insert]
            by_cases own : id = engine.runlist
            · simp [own]
            · simp [own, Ne.symm own]
          rw [lists id, List.exists_mem_cons_iff, adds, or_assoc, or_left_comm]
        · rintro failure after ⟨sameBus, cause⟩
          exact ⟨sameBus.trans bus, cause⟩
      · rintro failure between ⟨bus, error, serial, rfl, planned, given, openAccounts⟩
        dsimp only
        have listed :
            before.Accounts between.memory (serialsOf opened.values ++ []) given [serial] :=
          openAccounts.perm (.of_eq (List.append_nil _)) (.refl _)
        rw [yields_bind]
        refine (yields_closeRunlists listed).mono ?_ fun _ _ => False.elim
        rintro _ after ⟨sameBus, returned⟩
        exact ⟨sameBus.trans bus, error, serial, rfl, planned, returned⟩

/-- What a configuration is prepared with is accounted for. -/
theorem yields_prepare_accounts (config : Config) (machine : Machine) :
    (prepare config).Yields machine
      (fun runlists after =>
        machine.memory.Accounts after.memory (serialsOf runlists.values) [] [] ∧
        ∀ id, runlists.contains id = true ↔ ∃ engine ∈ config.engines, engine.runlist = id)
      (fun failure after =>
        (∃ fault, config.fault? = some fault ∧
          failure = .refused (.invalidConfig fault.message) ∧ after = machine) ∨
        TurnsDown machine.memory machine [] [] failure after) := by
  unfold prepare Config.validate
  rw [yields_bind]
  cases accepted : config.fault? with
  | some fault => exact .inl ⟨fault, rfl, rfl, rfl⟩
  | none =>
    have start : machine.memory.Accounts machine.memory
        (serialsOf (Table.empty : Table Runlist).values) [] [] := .refl _
    rw [yields_lift_ok, yields_bind]
    refine (yields_openRunlists_accounts start).mono ?_ fun _ _ => .inr
    rintro runlists after ⟨_, afterAccounts, lists⟩
    refine ⟨afterAccounts, fun id => ?_⟩
    rw [lists id]
    simp [Table.contains]

/-- A new scheduler with two buffers for each runlist, which are all that its creation asked for. -/
structure Furnished (config : Config) (before : MemoryPool) (scheduler : Scheduler) : Prop where
  /-- There is a runlist for each number that an engine names, and for no other one. -/
  lists : ∀ id, scheduler.runlists.contains id = true ↔
    ∃ engine ∈ config.engines, engine.runlist = id
  /-- Each buffer has room for an entry of two words for every channel and group. -/
  room : ∀ id runlist, scheduler.runlists.find? id = some runlist →
    2 * (config.channelCount + config.groupCount) ≤ runlist.current.wordCount ∧
      2 * (config.channelCount + config.groupCount) ≤ runlist.spare.wordCount
  /-- No two buffers are the same one. -/
  distinct : (serialsOf scheduler.runlists.values).Nodup
  /-- There are two buffers for each number. -/
  count : (serialsOf scheduler.runlists.values).length =
    2 * (config.engines.map (·.runlist)).dedup.length
  /-- Every request was granted and its buffer is still out. -/
  accounts : before.Accounts scheduler.machine.memory (serialsOf scheduler.runlists.values) [] []

/-- Creation that was refused: the registers are untouched and each buffer that was granted has
gone back, once. -/
structure Undone (config : Config) (machine : Machine) (error : Error) (after : Machine) :
    Prop where
  bus : after.bus = machine.bus
  accounts : ∃ given refused, machine.memory.Accounts after.memory [] given refused ∧
    given.Nodup ∧
    ((∃ fault, config.fault? = some fault ∧ error = .invalidConfig fault.message ∧
        after = machine) ∨
      ∃ serial, refused = [serial] ∧ machine.memory.plan serial = .error error)

/-- The numbers of the runlists are those of the engines, each once. -/
theorem keys_perm_dedup {runlists : Table Runlist}
    (lists : ∀ id, runlists.contains id = true ↔ ∃ engine ∈ config.engines, engine.runlist = id) :
    runlists.keys.Perm (config.engines.map (·.runlist)).dedup := by
  have distinct : runlists.keys.Nodup := runlists.keys_ascending.imp Nat.ne_of_lt
  rw [List.perm_ext_iff_of_nodup distinct (List.nodup_dedup _)]
  intro id
  rw [Table.mem_keys_iff, List.mem_dedup, List.mem_map, ← lists id]
  exact Option.isSome_iff_exists.symm

/-- Creation leaks nothing, whatever it is configured with and whichever requests for memory are
refused: either there is a scheduler that holds two buffers for each of its runlists, or the error
is handed on, no register has been written and every buffer that was granted has gone back once. -/
theorem create_furnished_or_undone (config : Config) (machine : Machine) :
    (∃ scheduler, create config machine = .ok scheduler ∧
        Furnished config machine.memory scheduler) ∨
      ∃ error after, create config machine = .error (.refused error, after) ∧
        Undone config machine error after := by
  have prepared := (yields_prepare config machine).and (yields_prepare_accounts config machine)
  unfold Yields at prepared
  unfold create
  rcases run : prepare config machine with ⟨failure | runlists, after⟩ <;> rw [run] at prepared
  · obtain ⟨_, ⟨fault, accepted, rfl, rfl⟩ | ⟨bus, error, serial, rfl, planned, given, accounts⟩⟩ :=
      prepared
    · exact .inr ⟨_, _, rfl, rfl, [], [], .refl _, List.nodup_nil, .inl ⟨fault, accepted, rfl, rfl⟩⟩
    · have once := accounts.nodup
      rw [List.nil_append, List.nodup_append] at once
      exact .inr ⟨error, after, rfl, bus, given, [serial], accounts, once.1,
        .inr ⟨serial, rfl, planned⟩⟩
  · obtain ⟨⟨_, fresh, _⟩, accounts, lists⟩ := prepared
    have distinct := accounts.nodup
    rw [List.append_nil, List.append_nil] at distinct
    refine .inl ⟨_, rfl, lists, ?_, distinct, ?_, accounts⟩
    · intro id runlist found
      have shaped := (fresh id runlist found).2.shaped
      exact ⟨shaped.currentRoom, shaped.spareRoom⟩
    · have sizes := (keys_perm_dedup lists).length_eq
      unfold Table.keys at sizes
      rw [List.length_map] at sizes
      rw [length_serialsOf, ← sizes]
      unfold Table.values
      rw [List.length_map]

end Scheduler

end GpuSched
