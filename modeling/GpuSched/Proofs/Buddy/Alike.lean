import GpuSched.Proofs.Buddy.Forecast
import GpuSched.Proofs.Buddy.Reversal

/-!
# Allocators that calls cannot tell apart

Two allocators of a flat space with the same free lists, for the same held ranges, answer a call
alike and stay alike. What is left to tell them apart are the totals of bytes: the allocator with
the greater ones may be stopped for their sake where the other is not. So of two runs of the same
calls one goes like the other up to there.
-/
namespace GpuSched.Buddy.Allocator

open Operation

section Endings

variable {request : SpaceRequest} {allocator after : Allocator} {ledger : List Holding}
  {shelves : Shelves} {call : Request} {result : Except Failure Nat}

/-- A call that is refused leaves an allocator that is ready. -/
theorem Ready.of_refused (ready : allocator.Ready request ledger) {error : Error}
    (ran : Allocator.perform call allocator = (.error (.refused error), after)) :
    after.Ready request (call.settle ledger (.error (.refused error))) := by
  rcases (ready.perform call).of_error ran with ⟨_, -, ready_after⟩ | crowded | ⟨stopped, -⟩
  · exact ready_after
  · cases crowded.1
  · cases stopped

/-- In a flat space a call is answered as the shelves and the held ranges foretell. -/
theorem Ready.foretold (ready : allocator.Ready request ledger)
    (flat : allocator.space.directoryOrder = none) (shelved : allocator.arena.Shelved shelves)
    (call : Request) :
    (Allocator.perform call).Yields allocator
      (fun answer after => ∃ rest,
        shelves.perform allocator.space ledger call = .ok (answer, rest) ∧
        after.arena.Shelved rest)
      (fun failure _ => Foretold (shelves.perform allocator.space ledger call) failure) := by
  have tended := ready.tended
  cases call with
  | allocate len pageClass =>
    exact foretold_allocate tended.settled tended.merged flat shelved len pageClass
  | allocateFixed base len pageClass =>
    exact foretold_allocateFixed ready.kept tended flat shelved base len pageClass
  | free address =>
    unfold Allocator.perform
    rw [yields_bind]
    exact ((ready.free address).and (foretold_free ready flat shelved address)).mono
      (fun _ _ ⟨_, shelved_after⟩ => ⟨_, rfl, shelved_after⟩) fun _ _ failed => failed.1.elim

/-- A call that is answered adds its bytes to the totals. -/
theorem Ready.totals (ready : allocator.Ready request ledger) (call : Request) :
    (Allocator.perform call).Yields allocator
      (fun _ after => after.requested = allocator.requested + call.asked ∧
        after.reserved = allocator.reserved + call.given allocator.space)
      (fun _ _ => True) := by
  obtain ⟨kept, tended, -⟩ := ready
  cases call with
  | allocate len pageClass =>
    exact (settles_allocate tended.settled tended.merged len pageClass).mono
      (fun _ _ ⟨_, _, _, grants⟩ => ⟨grants.requested, grants.reserved⟩) fun _ _ _ => trivial
  | allocateFixed base len pageClass =>
    obtain ⟨busy, checked, -⟩ := exists_overlaps kept tended base len
    exact (settles_allocateFixed tended.settled tended.merged
      (Space.start_mod_blockSize kept.space) checked).mono
        (fun _ _ ⟨_, _, _, grants, _⟩ => ⟨grants.requested, grants.reserved⟩) fun _ _ _ => trivial
  | free address =>
    unfold Allocator.perform
    rw [yields_bind]
    refine (settles_free tended.settled tended.merged kept.recorded).mono ?_ fun _ _ _ => trivial
    rintro _ after (⟨_, _, -, strikes⟩ | ⟨-, -, rfl⟩)
    · exact ⟨strikes.requested, strikes.reserved⟩
    · exact ⟨rfl, rfl⟩

/-- In a flat space no range that is idle is refused for want of a tile. -/
theorem allocateFixed_ne_exhausted (space : Space) (ledger : List Holding) (base len : Nat)
    (shelves : Shelves) :
    shelves.allocateFixed space ledger base len ≠ .error (.refused .exhausted) := by
  unfold Shelves.allocateFixed
  split
  · nofun
  split
  · nofun
  split <;> nofun

/-- How a call ends for which a forecast was made. -/
inductive Ends (allocator : Allocator) (call : Request) :
    Except Failure (Nat × Shelves) → Except Failure Nat → Allocator → Prop
  | answered {answer : Nat} {rest : Shelves} {after : Allocator}
      (shelved : after.arena.Shelved rest)
      (requested : after.requested = allocator.requested + call.asked)
      (reserved : after.reserved = allocator.reserved + call.given allocator.space) :
      Ends allocator call (.ok (answer, rest)) (.ok answer) after
  /-- The forecast is an answer, but a total is too large. -/
  | overrun {outcome : Nat × Shelves} {after : Allocator}
      (large : allocator.Overflows call.asked (call.given allocator.space)) :
      Ends allocator call (.ok outcome) (.error (.aborted .overflow)) after
  | refused {error : Error} :
      Ends allocator call (.error (.refused error)) (.error (.refused error)) allocator
  | stopped {reason : Abort} {after : Allocator} :
      Ends allocator call (.error (.aborted reason)) (.error (.aborted reason)) after

/-- In a flat space a call ends as the shelves and the held ranges foretell. -/
theorem Ready.ends (ready : allocator.Ready request ledger)
    (flat : allocator.space.directoryOrder = none) (shelved : allocator.arena.Shelved shelves)
    (ran : Allocator.perform call allocator = (result, after)) :
    allocator.Ends call (shelves.perform allocator.space ledger call) result after := by
  have foretold := ready.foretold flat shelved call
  cases result with
  | ok answer =>
    obtain ⟨rest, forecast, shelved_after⟩ := foretold.of_ok ran
    obtain ⟨requested, reserved⟩ := (ready.totals call).of_ok ran
    rw [forecast]
    exact .answered shelved_after requested reserved
  | error failure =>
    rcases foretold.of_error ran with forecast | ⟨rfl, outcome, forecast⟩
    · rw [forecast]
      cases failure with
      | aborted reason => exact .stopped
      | refused error =>
        rcases (ready.restores call).of_error ran with ⟨reason, stopped⟩ | rfl |
          ⟨⟨exhausted, base, len, pageClass, rfl⟩, -⟩
        · cases stopped
        · exact .refused
        · rw [exhausted] at forecast
          exact absurd forecast (allocateFixed_ne_exhausted _ ledger base len shelves)
    · rw [forecast]
      rcases (ready.perform call).of_error ran with ⟨_, refused, -⟩ | crowded | ⟨-, large⟩
      · cases refused
      · cases crowded.1
      · exact .overrun large

end Endings

section Likeness

variable {request : SpaceRequest} {one other next next' : Allocator} {ledger : List Holding}
  {shelves : Shelves} {call : Request} {result result' : Except Failure Nat}

/-- Two allocators of a flat space with the same shelves, for the same held ranges. The totals of
bytes of the second are no less than those of the first. -/
structure Alike (request : SpaceRequest) (ledger : List Holding) (shelves : Shelves)
    (one other : Allocator) : Prop where
  ready : one.Ready request ledger
  also_ready : other.Ready request ledger
  flat : one.space.directoryOrder = none
  shelved : one.arena.Shelved shelves
  also_shelved : other.arena.Shelved shelves
  requested : one.requested ≤ other.requested
  reserved : one.reserved ≤ other.reserved

/-- A request describes one space. -/
theorem Alike.space (alike : Alike request ledger shelves one other) : other.space = one.space :=
  Except.ok.inj (alike.also_ready.kept.space.symm.trans alike.ready.kept.space)

/-- Allocators that are alike answer a call alike and stay alike, unless a total of the second is
too large. -/
theorem Alike.perform (alike : Alike request ledger shelves one other)
    (ran : Allocator.perform call one = (result, next))
    (also_ran : Allocator.perform call other = (result', next')) :
    result' = .error (.aborted .overflow) ∨ result' = result ∧
      ((∃ reason, result = .error (.aborted reason)) ∨
        ∃ rest, Alike request (call.settle ledger result) rest next next') := by
  have space := alike.space
  obtain ⟨ready, also_ready, flat, shelved, also_shelved, requested, reserved⟩ := alike
  have ends := ready.ends flat shelved ran
  have also_ends := also_ready.ends (space ▸ flat) also_shelved also_ran
  rw [space] at also_ends
  generalize shelves.perform one.space ledger call = forecast at ends also_ends
  cases ends with
  | answered shelved_next requested_next reserved_next =>
    cases also_ends with
    | overrun _ => exact .inl rfl
    | answered shelved_next' requested_next' reserved_next' =>
      rw [space] at reserved_next'
      refine .inr ⟨rfl, .inr ⟨_, (ready.perform call).of_ok ran,
        (also_ready.perform call).of_ok also_ran, ?_, shelved_next, shelved_next', ?_, ?_⟩⟩
      · have kept := ((ready.perform call).of_ok ran).kept
        rw [Except.ok.inj (kept.space.symm.trans ready.kept.space)]
        exact flat
      · omega
      · omega
  | overrun large =>
    cases also_ends with
    | overrun _ => exact .inl rfl
    | answered _ requested_next' reserved_next' =>
      obtain ⟨requested_lt, reserved_lt, -⟩ := ((also_ready.perform call).of_ok also_ran).balanced
      rw [space] at reserved_next'
      rcases large with large | large <;> omega
  | refused =>
    cases also_ends with
    | refused =>
      exact .inr ⟨rfl, .inr ⟨shelves, ready.of_refused ran, also_ready.of_refused also_ran, flat,
        shelved, also_shelved, requested, reserved⟩⟩
  | stopped =>
    cases also_ends with
    | stopped => exact .inr ⟨rfl, .inl ⟨_, rfl⟩⟩

end Likeness

section Runs

variable {request : SpaceRequest} {allocator one other changed : Allocator} {ledger : List Holding}
  {shelves : Shelves} {call : Request} {calls : List Request} {result : Except Failure Nat}

/-- What some calls are answered one after another, up to the first that is stopped. -/
def answers (allocator : Allocator) : List Request → List (Except Failure Nat)
  | [] => []
  | call :: calls =>
      match perform call allocator with
      | (.error (.aborted reason), _) => [.error (.aborted reason)]
      | (result, changed) => result :: changed.answers calls

/-- A call that is stopped is the last one. -/
theorem answers_of_stopped {reason : Abort}
    (ran : Allocator.perform call allocator = (.error (.aborted reason), changed)) :
    allocator.answers (call :: calls) = [.error (.aborted reason)] := by
  rw [answers, ran]

/-- After a call that returns the others follow. -/
theorem answers_of_returned (ran : Allocator.perform call allocator = (result, changed))
    (returns : ¬ ∃ reason, result = .error (.aborted reason)) :
    allocator.answers (call :: calls) = result :: changed.answers calls := by
  rw [answers, ran]
  split
  · rename_i reason _ same
    exact absurd ⟨reason, (Prod.mk.inj same).1⟩ returns
  · rename_i same
    obtain ⟨rfl, rfl⟩ := Prod.mk.inj same
    rfl

/-- Allocators that are alike answer the same calls alike, up to one that is stopped because a total
of the second is too large. -/
theorem Alike.answers (alike : Alike request ledger shelves one other) :
    other.answers calls = one.answers calls ∨
      ∃ common, other.answers calls = common ++ [.error (.aborted .overflow)] ∧
        common <+: one.answers calls := by
  induction calls generalizing one other ledger shelves with
  | nil => exact .inl rfl
  | cons call calls ih =>
    obtain ⟨result, next, ran⟩ : ∃ result next, Allocator.perform call one = (result, next) :=
      ⟨_, _, rfl⟩
    obtain ⟨result', next', also_ran⟩ :
        ∃ result next, Allocator.perform call other = (result, next) := ⟨_, _, rfl⟩
    rcases alike.perform ran also_ran with rfl | ⟨rfl, outcome⟩
    · exact .inr ⟨[], answers_of_stopped also_ran, List.nil_prefix⟩
    by_cases stopped : ∃ reason, result' = .error (.aborted reason)
    · obtain ⟨reason, rfl⟩ := stopped
      rw [answers_of_stopped ran, answers_of_stopped also_ran]
      exact .inl rfl
    · obtain ⟨rest, alike_next⟩ := outcome.resolve_left stopped
      rw [answers_of_returned ran stopped, answers_of_returned also_ran stopped]
      rcases ih alike_next with same | ⟨common, all, before⟩
      · exact .inl (congrArg _ same)
      · exact .inr ⟨result' :: common, congrArg _ all, List.prefix_cons_inj _ |>.mpr before⟩

end Runs

end GpuSched.Buddy.Allocator
