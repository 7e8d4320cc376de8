import GpuSched.Proofs.Buddy.Alike

/-!
# What the totals of bytes count

The totals of bytes asked for and handed out are the sums over the calls of a run that were granted.
They only grow, so what a call is stopped for is known in advance: a call that is neither refused
nor finds the handles taken is granted while both sums leave room for it, and stopped otherwise. Up
to then each block that is handed out and each record belong to a range whose address was answered.
-/
namespace GpuSched.Buddy.Allocator

open Operation

/-- What the calls that are granted in a run weigh together. -/
def grantedSum (weight : Request → Nat) (allocator : Allocator) : List Request → Nat
  | [] => 0
  | call :: calls =>
      match perform call allocator with
      | (.ok _, changed) => weight call + changed.grantedSum weight calls
      | (.error _, changed) => changed.grantedSum weight calls

section Totals

variable {request : SpaceRequest} {start allocator changed after : Allocator}
  {ledger held : List Holding} {call : Request} {calls : List Request} {error : Error}

/-- A call that is refused leaves the totals. -/
theorem Ready.totals_of_refused (ready : allocator.Ready request ledger)
    (refused : Allocator.perform call allocator = (.error (.refused error), after)) :
    after.requested = allocator.requested ∧ after.reserved = allocator.reserved := by
  rcases (ready.restores call).of_error refused with ⟨reason, stopped⟩ | rfl | ⟨-, restores⟩
  · cases stopped
  · exact ⟨rfl, rfl⟩
  · obtain ⟨-, -, stats, -⟩ := restores.same ready.tended.settled
    exact ⟨congrArg AllocatorStats.requested stats, congrArg AllocatorStats.reserved stats⟩

/-- A run of calls that return adds the bytes of those that are granted to the totals. -/
theorem Ready.totals_carryOut (ready : allocator.Ready request ledger)
    (run : allocator.carryOut ledger calls = some (changed, held)) :
    changed.requested = allocator.requested + allocator.grantedSum Request.asked calls ∧
      changed.reserved =
        allocator.reserved + allocator.grantedSum (Request.given allocator.space) calls := by
  induction calls generalizing allocator ledger with
  | nil =>
    obtain ⟨rfl, -⟩ := Prod.mk.inj (Option.some.inj run)
    exact ⟨rfl, rfl⟩
  | cons call calls ih =>
    unfold Allocator.carryOut at run
    unfold grantedSum
    rcases ran : Allocator.perform call allocator with ⟨failure | answer, next⟩
    · cases failure with
      | aborted reason =>
        rw [ran] at run
        cases run
      | refused error =>
        rw [ran] at run
        have ready_next := ready.of_refused ran
        obtain ⟨requested, reserved⟩ := ih ready_next run
        obtain ⟨same_requested, same_reserved⟩ := ready.totals_of_refused ran
        rw [Except.ok.inj (ready_next.kept.space.symm.trans ready.kept.space)] at reserved
        exact ⟨by rw [requested, same_requested], by rw [reserved, same_reserved]⟩
    · rw [ran] at run
      have ready_next := (ready.perform call).of_ok ran
      obtain ⟨requested, reserved⟩ := ih ready_next run
      obtain ⟨more_requested, more_reserved⟩ := (ready.totals call).of_ok ran
      rw [Except.ok.inj (ready_next.kept.space.symm.trans ready.kept.space)] at reserved
      dsimp only
      constructor <;> omega

/-- A call is granted only if its bytes leave the totals in their words, and stopped for lack of a
handle or because they do not. -/
theorem Ready.sums (ready : allocator.Ready request ledger) (call : Request) :
    (Allocator.perform call).Yields allocator
      (fun _ _ => ¬ allocator.Overflows call.asked (call.given allocator.space))
      (fun failure _ => (∃ error, failure = .refused error) ∨ allocator.Crowded failure ∨
        failure = .aborted .overflow ∧
          allocator.Overflows call.asked (call.given allocator.space)) := by
  refine ((ready.perform call).and (ready.totals call)).mono ?_ ?_
  · rintro answer after ⟨ready_after, requested, reserved⟩
    obtain ⟨requested_lt, reserved_lt, -⟩ := ready_after.balanced
    unfold Overflows
    omega
  · rintro failure after ⟨⟨error, refused, -⟩ | stopped, -⟩
    · exact .inl ⟨error, refused⟩
    · exact .inr stopped

/-- A new allocator has counted nothing. -/
theorem totals_create (created : create request = .ok start) :
    start.requested = 0 ∧ start.reserved = 0 := by
  simp only [create, ofSpace, bind_eq_ok_iff, pure_eq_ok_iff] at created
  obtain ⟨space, -, arena, -, rfl⟩ := created
  exact ⟨rfl, rfl⟩

/-- After every run of calls that return the totals are the sums over the calls that were granted,
every record is that of a range whose address was answered, and every block that is handed out
belongs to one of these. A release returns. Any other call that is not refused and finds a handle is
granted if both sums stay below the limit of a word with its bytes, and stopped if one does not. -/
theorem stopped_by_sums (created : create request = .ok start)
    (run : start.carryOut [] calls = some (allocator, ledger)) :
    allocator.requested = start.grantedSum Request.asked calls ∧
      allocator.reserved = start.grantedSum (Request.given start.space) calls ∧
      allocator.freed ≤ allocator.reserved ∧
      (∀ owner, allocator.HasRecord owner ↔ ∃ holding ∈ ledger, holding.owner = owner) ∧
      (∀ id block, HandedOut allocator.arena.outline id block →
        ∃ holding ∈ ledger, allocator.Owns holding.owner id) ∧
      (∀ address, ∃ after, perform (.free address) allocator = (.ok address, after)) ∧
      ∀ call, (perform call).Yields allocator
        (fun _ _ => start.grantedSum Request.asked calls + call.asked < Checked.limit64 ∧
          start.grantedSum (Request.given start.space) calls + call.given start.space <
            Checked.limit64)
        (fun failure _ => (∃ error, failure = .refused error) ∨ allocator.Crowded failure ∨
          failure = .aborted .overflow ∧
            (Checked.limit64 ≤ start.grantedSum Request.asked calls + call.asked ∨
              Checked.limit64 ≤ start.grantedSum (Request.given start.space) calls +
                call.given start.space)) := by
  have ready := ready_of_run created run
  have same_space : allocator.space = start.space :=
    Except.ok.inj (ready.kept.space.symm.trans (ready_create created).kept.space)
  obtain ⟨requested, reserved⟩ := (ready_create created).totals_carryOut run
  obtain ⟨no_requested, no_reserved⟩ := totals_create created
  rw [no_requested, Nat.zero_add] at requested
  rw [no_reserved, Nat.zero_add] at reserved
  have balance := ready.balanced.reserved
  refine ⟨requested, reserved, by omega, fun owner => ⟨ready.tended.granted, ?_⟩,
    fun id block handed => ?_, fun address => ?_, fun call => ?_⟩
  · rintro ⟨holding, mem, rfl⟩
    exact ready.kept.hasRecord mem
  · obtain ⟨owner, owns⟩ := ready.tended.owned handed
    obtain ⟨holding, mem, rfl⟩ := ready.tended.granted (hasRecord_of_owns owns)
    exact ⟨holding, mem, owns⟩
  · have outcome : (perform (.free address)).Yields allocator (fun answer _ => answer = address)
        fun _ _ => False := by
      unfold perform
      rw [yields_bind]
      exact (ready.free address).mono (fun _ _ _ => rfl) fun _ _ => id
    obtain ⟨answer, after, ran, rfl⟩ := outcome.exists_ok
    exact ⟨after, ran⟩
  · have outcome := ready.sums call
    unfold Overflows at outcome
    rw [requested, reserved, same_space] at outcome
    exact outcome.mono (fun _ _ small => by omega) fun _ _ => id

/-- Half the addresses are handed out and come back, and a quarter of them is granted then: the sums
leave room for it. -/
theorem stopped_by_sums_of_quarter : ∃ start allocator after : Allocator,
    create
      { name := "heap", base := 0, length := 0x8000000000000000,
        blockSize := 0x4000000000000000 } = .ok start ∧
    start.carryOut [] [.allocate 0x4000000000000001 .any, .free 0] = some (allocator, []) ∧
    allocator.requested = 0x4000000000000001 ∧ allocator.reserved = 0x8000000000000000 ∧
    start.grantedSum Request.asked [.allocate 0x4000000000000001 .any, .free 0] +
      0x4000000000000000 < Checked.limit64 ∧
    perform (.allocate 0x4000000000000000 .any) allocator = (.ok 0, after) := by
  let calls : List Request := [.allocate 0x4000000000000001 .any, .free 0]
  have outcome : ((create
      { name := "heap", base := 0, length := 0x8000000000000000,
        blockSize := 0x4000000000000000 }).toOption.bind fun start =>
        (start.carryOut [] calls).map fun (allocator, ledger) =>
          (ledger, start.grantedSum Request.asked calls,
            start.grantedSum (Request.given start.space) calls,
            (perform (.allocate 0x4000000000000000 .any) allocator).1)) =
      some ([], 0x4000000000000001, 0x8000000000000000, .ok 0) := by decide +kernel
  obtain ⟨start, created, ran⟩ := Option.bind_eq_some_iff.mp outcome
  obtain ⟨⟨allocator, ledger⟩, run, all⟩ := Option.map_eq_some_iff.mp ran
  simp only [Prod.mk.injEq] at all
  obtain ⟨rfl, asked, given, answer⟩ := all
  have started := eq_ok_of_toOption created
  have granted : perform (.allocate 0x4000000000000000 .any) allocator = (.ok 0, _) :=
    Prod.ext answer rfl
  obtain ⟨requested, reserved, -, -, -, -, ends⟩ := stopped_by_sums started run
  exact ⟨start, allocator, _, started, run, requested.trans asked, reserved.trans given,
    ((ends _).of_ok granted).1, granted⟩

/-- After one round of calls the space is empty again and could serve the request once more, but the
sum of what was handed out would leave its word. The call is stopped after the range went on record,
so its block is handed out and no caller has the address. -/
theorem on_record_without_answer : ∃ start allocator after : Allocator,
    create
      { name := "heap", base := 0, length := 0x8000000000000000,
        blockSize := 0x4000000000000000 } = .ok start ∧
    start.carryOut [] [.allocate 0x4000000000000001 .any, .free 0] = some (allocator, []) ∧
    perform (.allocate 0x4000000000000001 .any) allocator = (.error (.aborted .overflow), after) ∧
    ∃ id block, after.ordinary.find? 0 = some id ∧ HandedOut after.arena.block? id block := by
  have outcome : ((create
      { name := "heap", base := 0, length := 0x8000000000000000,
        blockSize := 0x4000000000000000 }).toOption.bind fun start =>
        (start.carryOut [] [.allocate 0x4000000000000001 .any, .free 0]).bind
          fun (allocator, ledger) =>
            ((perform (.allocate 0x4000000000000001 .any) allocator).2.ordinary.find? 0).bind
              fun id => ((perform (.allocate 0x4000000000000001 .any) allocator).2.arena.block?
                id).map fun block => (ledger, block.state,
                  (perform (.allocate 0x4000000000000001 .any) allocator).1)) =
      some ([], .allocated, .error (.aborted .overflow)) := by decide +kernel
  obtain ⟨start, created, ran⟩ := Option.bind_eq_some_iff.mp outcome
  obtain ⟨⟨allocator, ledger⟩, run, recorded⟩ := Option.bind_eq_some_iff.mp ran
  obtain ⟨id, on_record, held⟩ := Option.bind_eq_some_iff.mp recorded
  obtain ⟨block, found, all⟩ := Option.map_eq_some_iff.mp held
  simp only [Prod.mk.injEq] at all
  obtain ⟨rfl, allocated, answer⟩ := all
  exact ⟨start, allocator, _, eq_ok_of_toOption created, run, Prod.ext answer rfl, id, block,
    on_record, found, allocated⟩

end Totals

end GpuSched.Buddy.Allocator
