import GpuSched.Proofs.Buddy.Balance

/-!
# Runs of calls

A call that returns, with an answer or a refusal, leaves an allocator that is ready for the next
call. A call that does not return finds no handle left or would make a total of bytes too large. So
in every run of calls that return, the records, the blocks, the totals and what the callers hold
agree.
-/
namespace GpuSched.Buddy.Allocator

open Operation

/-- The bytes that a call adds to the total of those asked for, if it is granted. -/
def Request.asked : Request → Nat
  | .allocate len _ | .allocateFixed _ len _ => len
  | .free _ => 0

/-- The bytes that a call adds to the total of those handed out, if it is granted. -/
def Request.given (space : Space) : Request → Nat
  | .allocate len _ => space.blockLength (space.orderOf len)
  | .allocateFixed _ len _ => len
  | .free _ => 0

section Calls

variable {request : SpaceRequest} {allocator : Allocator} {ledger : List Holding}

/-- How a call fails: it is refused and what callers hold stays, or it is stopped, for lack of a
handle or because a total would be too large. -/
def Fails (allocator : Allocator) (request : SpaceRequest) (ledger : List Holding) (call : Request)
    (failure : Failure) (after : Allocator) : Prop :=
  (∃ error, failure = .refused error ∧ after.Ready request ledger) ∨ allocator.Crowded failure ∨
    failure = .aborted .overflow ∧ allocator.Overflows call.asked (call.given allocator.space)

/-- An ordinary request that returns leaves an allocator that is ready. -/
theorem Ready.allocate (ready : allocator.Ready request ledger) (len : Nat) (wanted : PageClass) :
    (allocate len wanted).Yields allocator
      (fun address after => after.Ready request (.ordinary address len :: ledger))
      (allocator.Fails request ledger (.allocate len wanted)) := by
  obtain ⟨kept, tended, balanced⟩ := ready
  refine ((yields_allocate kept).and
    (settles_allocate tended.settled tended.merged len wanted)).mono ?_ ?_
  · rintro address after ⟨kept_after, -, -, -, grants⟩
    exact ⟨kept_after, tended.grant kept_after grants, balanced.grant grants⟩
  · rintro failure after ⟨-, ⟨error, refused, rfl, -⟩ | ⟨-, -, -, stopped⟩⟩
    · exact .inl ⟨error, refused, kept, tended, balanced⟩
    · exact .inr stopped

/-- A fixed request that returns leaves an allocator that is ready. -/
theorem Ready.allocateFixed (ready : allocator.Ready request ledger) (base len : Nat)
    (wanted : PageClass) :
    (allocateFixed base len wanted).Yields allocator
      (fun answer after => after.Ready request (.fixed answer len :: ledger))
      (allocator.Fails request ledger (.allocateFixed base len wanted)) := by
  obtain ⟨kept, tended, balanced⟩ := ready
  obtain ⟨busy, checked, -⟩ := exists_overlaps kept tended base len
  refine ((yields_allocateFixed kept).and (settles_allocateFixed tended.settled tended.merged
    (Space.start_mod_blockSize kept.space) checked)).mono ?_ ?_
  · rintro answer after ⟨kept_after, rfl, -, -, grants, -⟩
    exact ⟨kept_after, tended.grant kept_after grants, balanced.grant grants⟩
  · rintro failure after ⟨kept_after, ⟨refused, -, rfl⟩ | ⟨-, ⟨refused, -, rfl⟩ |
      ⟨-, crowded | ⟨refused, denies, -⟩ | ⟨stopped, large, -⟩⟩⟩⟩
    · exact .inl ⟨_, refused, kept, tended, balanced⟩
    · exact .inl ⟨_, refused, kept, tended, balanced⟩
    · exact .inr (.inl crowded)
    · refine .inl ⟨_, refused, kept_after.resolve_left ?_, tended.deny denies,
        balanced.deny denies.books⟩
      rintro ⟨check, halted⟩
      rw [refused] at halted
      cases halted
    · exact .inr (.inr ⟨stopped, large⟩)

/-- A release returns and leaves an allocator that is ready. -/
theorem Ready.free (ready : allocator.Ready request ledger) (address : Nat) :
    (free address).Yields allocator
      (fun _ after => after.Ready request (ledger.filter (·.start != address)))
      (fun _ _ => False) := by
  obtain ⟨kept, tended, balanced⟩ := ready
  refine ((yields_free kept).and
    (settles_free tended.settled tended.merged kept.recorded)).mono ?_ ?_
  · rintro _ after ⟨kept_after, ⟨owner, bytes, record, strikes⟩ | ⟨absent, missing, rfl⟩⟩
    · obtain ⟨holding, mem, rfl, rfl, rfl⟩ := Ready.exists_holding ⟨kept, tended, balanced⟩ record
      exact ⟨kept_after, tended.strike kept mem strikes, balanced.strike kept.starts mem strikes⟩
    · refine ⟨kept_after, ?_, ?_⟩ <;> rw [kept.filter_of_no_record absent missing]
      · exact tended
      · exact balanced
  · rintro failure after ⟨-, -, owner, bytes, record, large⟩
    obtain ⟨holding, mem, -, -, rfl⟩ := Ready.exists_holding ⟨kept, tended, balanced⟩ record
    have handed := balanced.reserved
    have part := heldBytes_filter allocator.space kept.starts mem
    have short := balanced.reserved_lt
    omega

/-- A call that returns leaves an allocator that is ready. -/
theorem Ready.perform (ready : allocator.Ready request ledger) (call : Request) :
    (perform call).Yields allocator
      (fun answer after => after.Ready request (call.settle ledger (.ok answer)))
      (fun failure after => (∃ error, failure = .refused error ∧
          after.Ready request (call.settle ledger (.error failure))) ∨
        allocator.Crowded failure ∨ failure = .aborted .overflow ∧
          allocator.Overflows call.asked (call.given allocator.space)) := by
  cases call with
  | allocate len pageClass => exact ready.allocate len pageClass
  | allocateFixed base len pageClass => exact ready.allocateFixed base len pageClass
  | free address =>
    unfold Allocator.perform
    rw [yields_bind]
    exact (ready.free address).mono (fun _ _ => id) fun _ _ => False.elim

end Calls

section Runs

variable {request : SpaceRequest} {allocator changed : Allocator} {ledger held : List Holding}
  {calls : List Request}

/-- Carry out some calls one after another, if all of them return. -/
def carryOut (allocator : Allocator) (ledger : List Holding) :
    List Request → Option (Allocator × List Holding)
  | [] => some (allocator, ledger)
  | call :: calls =>
      match perform call allocator with
      | (.error (.aborted _), _) => none
      | (result, changed) => changed.carryOut (call.settle ledger result) calls

/-- Calls that all return leave an allocator that is ready. -/
theorem Ready.carryOut (ready : allocator.Ready request ledger)
    (run : allocator.carryOut ledger calls = some (changed, held)) :
    changed.Ready request held := by
  induction calls generalizing allocator ledger with
  | nil =>
    obtain ⟨rfl, rfl⟩ := Prod.mk.inj (Option.some.inj run)
    exact ready
  | cons call calls ih =>
    have outcome := ready.perform call
    rw [Allocator.carryOut] at run
    split at run
    · cases run
    · rename_i result next returns ran
      cases result with
      | ok answer => exact ih (outcome.of_ok ran) run
      | error failure =>
        rcases outcome.of_error ran with ⟨error, -, ready_next⟩ | crowded | ⟨stopped, -⟩
        · exact ih ready_next run
        · exact absurd (congrArg Except.error crowded.1) (returns _)
        · exact absurd (congrArg Except.error stopped) (returns _)

/-- A new allocator is ready, and callers hold nothing. -/
theorem ready_create (created : create request = .ok allocator) : allocator.Ready request [] := by
  obtain ⟨settled, merged, unused⟩ := settled_create created
  obtain ⟨-, ordinary, fixed, -⟩ := tiled_create created
  refine ⟨(Reached.start created).kept, ⟨settled, merged, ?_, fun {owner} has => ?_⟩, ?_⟩
  · exact fun handed => absurd handed (unused _ _)
  · cases owner with
    | ordinary address =>
      obtain ⟨id, found⟩ := has
      rw [ordinary] at found
      cases found
    | fixed base =>
      obtain ⟨range, found⟩ := has
      rw [fixed] at found
      cases found
  · simp only [create, ofSpace, bind_eq_ok_iff, pure_eq_ok_iff] at created
    obtain ⟨space, -, arena, -, rfl⟩ := created
    have some_left : 0 < Checked.limit64 := by decide
    exact ⟨some_left, some_left, rfl⟩

/-- In every run of calls that return, the allocator is ready for the next one. -/
theorem ready_of_run (created : create request = .ok allocator)
    (run : allocator.carryOut [] calls = some (changed, held)) : changed.Ready request held :=
  (ready_create created).carryOut run

/-- In every run of calls that return, the records, the blocks and the ledger stay together. -/
theorem kept_and_tended (created : create request = .ok allocator)
    (run : allocator.carryOut [] calls = some (changed, held)) :
    changed.Kept request held ∧ changed.Tended held :=
  have ready := ready_of_run created run
  ⟨ready.kept, ready.tended⟩

end Runs

end GpuSched.Buddy.Allocator
