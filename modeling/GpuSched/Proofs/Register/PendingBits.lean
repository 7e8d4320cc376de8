import GpuSched.Proofs.Register.Pickups
import GpuSched.Proofs.Register.Submissions

/-!
# Pending bits over a run

A request is pending for a number of reads and then done, whatever happens to the hardware in
between: other accesses, events, hangs for later requests and resets of units. The one exception is
a hang without end that is set for a runlist after its request. The next reset makes it take hold
of that request, which is pending from then on, even if it was done. Nothing like it happens to
preempt requests.
-/
namespace GpuSched

/-- What is done to the simulated hardware: an access of its driver, or an event on its side. -/
inductive HardwareStep where
  | read (offset : Nat)
  | write (offset : Nat) (value : UInt32)
  | event (injection : Injection)
  deriving DecidableEq, Repr

/-- A bit that tells whether a request is pending. -/
inductive PendingBit where
  /-- Whether the hardware has yet to pick up the list of a runlist. -/
  | runlist (id : Fin Register.runlistCount)
  /-- Whether a preempt request is pending. -/
  | preempt
  deriving DecidableEq, Repr

namespace PendingBit

/-- The register that holds the bit. -/
def register : PendingBit → Nat
  | runlist id => Register.runlistStatus.base + id * Register.runlistStatus.stride
  | preempt => Register.preempt

/-- The place of the bit in its register. -/
def mask : PendingBit → UInt32
  | runlist _ => Register.runlistPendingBit
  | preempt => Register.preemptPendingBit

/-- The register through which requests are made. -/
def requestRegister : PendingBit → Nat
  | runlist id => Register.runlistSubmit.base + id * Register.runlistSubmit.stride
  | preempt => Register.preempt

/-- Whether a step makes a request. -/
def isRequest (bit : PendingBit) : HardwareStep → Bool
  | .write offset _ => offset = bit.requestRegister
  | _ => false

end PendingBit

namespace Pending

/-- What a step that makes no request does to a pending request: it is read, left alone, let go by
a reset or seized by one. The answer is what the step reads of the pending bit. -/
inductive Moves : Pending → (seized : Bool) → (answer : Option Bool) → Pending → Prop
  | polled (pending : Pending) : Moves pending false (some pending.read.1) pending.read.2
  | rested (pending : Pending) : Moves pending false none pending
  | released (pending : Pending) : Moves pending false none pending.afterReset
  | seized (pending : Pending) :
      Moves pending true none { pending.afterReset with hang := some .forever }

end Pending

namespace Simulation

variable {sim : Simulation} {bit : PendingBit} {step : HardwareStep} {steps : List HardwareStep}
  {offset left : Nat} {value : UInt32}

/-- The hardware after a step. An event that fails changes nothing. -/
def after (sim : Simulation) : HardwareStep → Simulation
  | .read offset => (sim.read offset).2
  | .write offset value => sim.write offset value
  | .event injection => (sim.inject injection).toOption.getD sim

/-- What a step reads of a pending bit. -/
def poll? (bit : PendingBit) (sim : Simulation) : HardwareStep → Option Bool
  | .read offset =>
      if offset = bit.register then some ((sim.read offset).1 &&& bit.mask != 0) else none
  | _ => none

/-- What the reads of a pending bit see in a run, in order. -/
def polls (bit : PendingBit) (sim : Simulation) : List HardwareStep → List Bool
  | [] => []
  | step :: rest => (poll? bit sim step).toList ++ polls bit (sim.after step) rest

/-- The latest request that a pending bit is about. -/
def request (sim : Simulation) : PendingBit → Pending
  | .runlist id => (sim.runlists.find? id).getD {}
  | .preempt => sim.preempt

/-- The hang that is set for the next requests. -/
def hangFor (sim : Simulation) : PendingBit → Option HangMode
  | .runlist id => sim.runlistHangs.find? id
  | .preempt => sim.preemptHang

/-- Whether the next reset makes a lasting hang take hold of a request that is on record. -/
def endangers (sim : Simulation) : PendingBit → Bool
  | .runlist id => sim.runlistHangs.find? id = some .forever && sim.runlists.contains id
  | .preempt => false

/-- Whether a step is a reset that makes a lasting hang take hold of a request on record. -/
def seizes (sim : Simulation) (bit : PendingBit) : HardwareStep → Bool
  | .write offset value =>
      offset = Register.unitEnable && sim.word Register.unitEnable &&& ~~~value != 0 &&
        sim.endangers bit
  | _ => false

/-- No step of a run makes a request. -/
def Unasked (bit : PendingBit) (steps : List HardwareStep) : Prop :=
  ∀ step ∈ steps, bit.isRequest step = false

/-- No reset of a run seizes a request that is on record. -/
def Unseized (bit : PendingBit) (sim : Simulation) : List HardwareStep → Prop
  | [] => True
  | step :: rest => sim.seizes bit step = false ∧ Unseized bit (sim.after step) rest

instance (bit : PendingBit) (steps : List HardwareStep) : Decidable (Unasked bit steps) :=
  inferInstanceAs (Decidable (∀ step ∈ steps, bit.isRequest step = false))

instance decidableUnseized (bit : PendingBit) :
    (sim : Simulation) → (steps : List HardwareStep) → Decidable (Unseized bit sim steps)
  | _, [] => .isTrue trivial
  | sim, step :: rest =>
      have := decidableUnseized bit (sim.after step) rest
      inferInstanceAs (Decidable (sim.seizes bit step = false ∧ _))

/-- A read of the register of a pending bit tells whether the request is pending. -/
theorem read_register (bit : PendingBit) (sim : Simulation) :
    ((sim.read bit.register).1 &&& bit.mask != 0) = (sim.request bit).read.1 ∧
      (sim.read bit.register).2.request bit = (sim.request bit).read.2 := by
  cases bit with
  | runlist id =>
    have whole : sim.read (PendingBit.runlist id).register = _ := read_status id.isLt
    rw [whole]
    constructor
    · exact pending_of_markPending (by decide) _ _
    · unfold request
      dsimp only
      rw [Table.find?_insert, if_pos rfl]
      rfl
  | preempt =>
    have whole : sim.read Register.preempt =
        (markPending Register.preemptPendingBit (sim.word Register.preempt) sim.preempt.read.1,
          { sim with preempt := sim.preempt.read.2 }) := by
      unfold read
      rw [runlistStatus_index?_eq_none (by decide)]
      rfl
    unfold PendingBit.register
    rw [whole]
    constructor
    · exact pending_of_markPending (by decide) _ _
    · rfl

/-- A read of another register leaves a request as it is. -/
theorem request_read_of_ne (apart : offset ≠ bit.register) :
    (sim.read offset).2.request bit = sim.request bit := by
  unfold read
  cases slot : Register.runlistStatus.index? Register.runlistCount offset with
  | some other =>
    obtain ⟨-, place⟩ := RegisterBank.of_index? slot
    cases bit with
    | runlist id =>
      have different : id.val ≠ other := by
        rintro rfl
        exact apart place.symm
      unfold request
      dsimp only
      rw [Table.find?_insert, if_neg different]
    | preempt => rfl
  | none =>
    dsimp only
    split
    · cases bit with
      | runlist id => rfl
      | preempt => exact absurd ‹_› apart
    · rfl

/-- The hangs that a reset leaves. -/
theorem find?_runlistHangs_liftHangs (runlist : Nat) (sim : Simulation) :
    sim.liftHangs.runlistHangs.find? runlist =
      if sim.runlistHangs.find? runlist = some .forever then some .forever else none := by
  unfold liftHangs
  dsimp only
  rw [Table.find?_filter]
  cases sim.runlistHangs.find? runlist with
  | none => rfl
  | some mode =>
    cases mode with
    | untilReset => rfl
    | forever => rfl

/-- What a reset leaves of a request. -/
theorem request_liftHangs (bit : PendingBit) (sim : Simulation) :
    sim.liftHangs.request bit =
      if sim.endangers bit then { (sim.request bit).afterReset with hang := some .forever }
      else (sim.request bit).afterReset := by
  cases bit with
  | preempt => rfl
  | runlist id =>
    have hangs := find?_runlistHangs_liftHangs id sim
    have endangered : sim.endangers (.runlist id) =
        (decide (sim.runlistHangs.find? id = some .forever) &&
          (sim.runlists.find? id).isSome) := rfl
    rw [endangered]
    unfold liftHangs at hangs
    unfold liftHangs request
    dsimp only at hangs ⊢
    rw [Table.find?_map, hangs]
    cases sim.runlists.find? id with
    | none => simp [Pending.afterReset]
    | some pending =>
      by_cases lasting : sim.runlistHangs.find? id = some .forever
      · simp [lasting]
      · simp [lasting]

/-- A word changes no request. -/
@[simp] theorem request_setWord (bit : PendingBit) (sim : Simulation) (offset : Nat)
    (value : UInt32) : (sim.setWord offset value).request bit = sim.request bit := by
  cases bit with
  | runlist id => rfl
  | preempt => rfl

/-- A submission for another runlist leaves a request as it is. -/
theorem request_submit_of_ne {other : Nat} (apart : offset ≠ bit.requestRegister)
    (place : Register.runlistSubmit.base + other * Register.runlistSubmit.stride = offset) :
    (sim.submit other offset value).request bit = sim.request bit := by
  cases bit with
  | runlist id =>
    have different : id.val ≠ other := by
      rintro rfl
      exact apart place.symm
    unfold request submit
    dsimp only
    rw [Table.find?_insert, if_neg different]
  | preempt => rfl

/-- A write of the unit enables that clears some of them is a reset for the requests. -/
theorem request_enableUnits (bit : PendingBit) (sim : Simulation) (value : UInt32) :
    (sim.enableUnits value).request bit =
      if sim.word Register.unitEnable &&& ~~~value ≠ 0 then sim.liftHangs.request bit
      else sim.request bit := by
  unfold enableUnits
  dsimp only
  rw [request_setWord]
  by_cases lowers : sim.word Register.unitEnable &&& ~~~value = 0
  · rw [if_pos lowers, if_neg (not_not.mpr lowers)]
    cases bit with
    | runlist id => rfl
    | preempt => rfl
  · rw [if_neg lowers, if_pos lowers]
    cases bit with
    | runlist id => rfl
    | preempt => rfl

/-- What a write that makes no request leaves of a request. -/
theorem request_write (unasked : bit.isRequest (.write offset value) = false) :
    (sim.write offset value).request bit =
      if offset = Register.unitEnable ∧ sim.word Register.unitEnable &&& ~~~value ≠ 0 then
        sim.liftHangs.request bit
      else sim.request bit := by
  have apart : offset ≠ bit.requestRegister := of_decide_eq_false unasked
  by_cases enable : offset = Register.unitEnable
  · subst enable
    have enables : sim.write Register.unitEnable value = sim.enableUnits value := rfl
    rw [enables, request_enableUnits]
    simp only [true_and]
  · rw [if_neg (by simp [enable])]
    unfold write
    cases slot : Register.runlistSubmit.index? Register.runlistCount offset with
    | some other =>
      exact request_submit_of_ne apart (RegisterBank.of_index? slot).2
    | none =>
      dsimp only
      rw [if_neg enable]
      split
      · cases bit with
        | runlist id => rfl
        | preempt => exact absurd ‹_› apart
      · split
        · exact request_setWord bit sim _ _
        · split
          · exact request_setWord bit sim _ _
          · exact request_setWord bit sim _ _

/-- An event leaves a request as it is. -/
theorem request_inject (bit : PendingBit) (sim : Simulation) (injection : Injection) :
    ((sim.inject injection).toOption.getD sim).request bit = sim.request bit := by
  cases injects : sim.inject injection with
  | error failure => rfl
  | ok changed =>
    obtain ⟨-, runlists, preempt⟩ := inject_eq_ok injects
    cases bit with
    | runlist id =>
      show (changed.runlists.find? id).getD {} = _
      rw [runlists]
      rfl
    | preempt => exact preempt

/-- What a step does that makes no request. -/
theorem moves_after (sim : Simulation) (unasked : bit.isRequest step = false) :
    (sim.request bit).Moves (sim.seizes bit step) (poll? bit sim step)
      ((sim.after step).request bit) := by
  cases step with
  | read offset =>
    unfold seizes poll? after
    dsimp only
    by_cases own : offset = bit.register
    · obtain ⟨seen, left⟩ := read_register bit sim
      rw [if_pos own, own, seen, left]
      exact .polled _
    · rw [if_neg own, request_read_of_ne own]
      exact .rested _
  | write offset value =>
    unfold seizes poll? after
    dsimp only
    rw [request_write unasked]
    split
    · rename_i resets
      have lowers : (sim.word Register.unitEnable &&& ~~~value != 0) = true :=
        bne_iff_ne.mpr resets.2
      rw [request_liftHangs, resets.1, lowers]
      cases sim.endangers bit with
      | false => exact .released _
      | true => exact .seized _
    · rename_i noReset
      have harmless : (decide (offset = Register.unitEnable) &&
          sim.word Register.unitEnable &&& ~~~value != 0) = false := by
        rw [Bool.and_eq_false_iff, decide_eq_false_iff_not, bne_eq_false_iff_eq]
        exact not_and_or.mp noReset |>.imp_right not_not.mp
      rw [harmless]
      exact .rested _
  | event injection =>
    show Pending.Moves _ false none _
    unfold after
    dsimp only
    rw [request_inject]
    exact .rested _

/-- A request without a hang is pending for as many reads as it has left. -/
theorem polls_of_left (unasked : Unasked bit steps) (unseized : Unseized bit sim steps)
    (request : sim.request bit = ⟨left, none⟩) {place : Nat} {seen : Bool}
    (read : (polls bit sim steps)[place]? = some seen) : seen = decide (place < left) := by
  induction steps generalizing sim left place with
  | nil => cases read
  | cons step rest ih =>
    obtain ⟨unaskedStep, unaskedRest⟩ := List.forall_mem_cons.mp unasked
    obtain ⟨unseizedStep, unseizedRest⟩ := unseized
    have moves := moves_after sim unaskedStep
    rw [unseizedStep, request] at moves
    unfold polls at read
    generalize poll? bit sim step = answer at moves read
    generalize next : (sim.after step).request bit = changed at moves
    cases moves with
    | rested => exact ih unaskedRest unseizedRest next read
    | released => exact ih unaskedRest unseizedRest next read
    | polled =>
      cases left with
      | zero =>
        cases place with
        | zero => exact (Option.some.inj read).symm
        | succ place =>
          have later : seen = decide (place < 0) := ih unaskedRest unseizedRest next read
          rw [later]
          rfl
      | succ left =>
        cases place with
        | zero => exact (Option.some.inj read).symm
        | succ place =>
          have later : seen = decide (place < left) := ih unaskedRest unseizedRest next read
          exact later.trans (decide_eq_decide.mpr Nat.succ_lt_succ_iff.symm)

/-- Once a request reads as done, it does so until the next one. -/
theorem polls_pairwise (unasked : Unasked bit steps) (unseized : Unseized bit sim steps) :
    (polls bit sim steps).Pairwise fun earlier later => earlier = false → later = false := by
  induction steps generalizing sim with
  | nil => exact .nil
  | cons step rest ih =>
    obtain ⟨unaskedStep, unaskedRest⟩ := List.forall_mem_cons.mp unasked
    obtain ⟨unseizedStep, unseizedRest⟩ := unseized
    have rests := ih unaskedRest unseizedRest
    have moves := moves_after sim unaskedStep
    rw [unseizedStep] at moves
    unfold polls
    generalize poll? bit sim step = answer at moves ⊢
    generalize sim.request bit = pending at moves
    generalize next : (sim.after step).request bit = changed at moves
    cases moves with
    | rested => exact rests
    | released => exact rests
    | polled =>
      apply List.pairwise_cons.mpr
      refine ⟨fun later mem done => ?_, rests⟩
      rw [read_eq_of_not_pending done] at next
      obtain ⟨place, _, read⟩ := List.getElem_of_mem mem
      have none_left : pending = ⟨0, none⟩ := by
        obtain ⟨left, hang⟩ := pending
        unfold Pending.read at done
        cases hang with
        | some mode => cases done
        | none =>
          cases left with
          | zero => rfl
          | succ left => cases done
      have seen : later = decide (place < 0) :=
        polls_of_left unaskedRest unseizedRest (next.trans none_left)
          (List.getElem?_eq_some_iff.mpr ⟨_, read⟩)
      rw [seen]
      rfl

/-- A request that hangs without end is pending until the next one. -/
theorem polls_of_lasting (unasked : Unasked bit steps)
    (lasting : (sim.request bit).hang = some .forever) :
    ∀ seen ∈ polls bit sim steps, seen = true := by
  induction steps generalizing sim with
  | nil =>
    intro seen mem
    cases mem
  | cons step rest ih =>
    obtain ⟨unaskedStep, unaskedRest⟩ := List.forall_mem_cons.mp unasked
    have moves := moves_after sim unaskedStep
    have lasts := @ih (sim.after step) unaskedRest
    unfold polls
    generalize poll? bit sim step = answer at moves ⊢
    generalize (sim.after step).request bit = changed at moves lasts
    generalize sim.request bit = pending at moves lasting
    generalize sim.seizes bit step = seized at moves
    obtain ⟨left, hang⟩ := pending
    cases lasting
    cases moves with
    | rested => exact lasts rfl
    | released => exact lasts rfl
    | seized => exact lasts rfl
    | polled => exact List.forall_mem_cons.mpr ⟨rfl, lasts rfl⟩

/-- A request is pending as long as the hardware says at that time. -/
theorem request_after (requests : bit.isRequest step = true) :
    (sim.after step).request bit = ⟨sim.latency, sim.hangFor bit⟩ := by
  cases step with
  | read | event => cases requests
  | write offset value =>
    have place : offset = bit.requestRegister := of_decide_eq_true requests
    subst place
    cases bit with
    | runlist id =>
      have submits : sim.write (PendingBit.runlist id).requestRegister value =
          sim.submit id (PendingBit.runlist id).requestRegister value := by
        have slot := runlistSubmit_index?_slot id.isLt
        unfold write
        unfold PendingBit.requestRegister Register.runlistSubmit
        dsimp only
        unfold Register.runlistSubmit at slot
        rw [slot]
      unfold after
      dsimp only
      rw [submits]
      unfold submit request
      dsimp only
      rw [Table.find?_insert, if_pos rfl]
      rfl
    | preempt => rfl

/-- A reset that seizes makes no request. -/
theorem isRequest_of_seizes (seizes : sim.seizes bit step = true) :
    bit.isRequest step = false := by
  cases step with
  | read | event => rfl
  | write offset value =>
    unfold Simulation.seizes at seizes
    simp only [Bool.and_eq_true, decide_eq_true_eq] at seizes
    obtain ⟨⟨enable, -⟩, -⟩ := seizes
    unfold PendingBit.isRequest
    rw [enable]
    cases bit with
    | runlist id =>
      apply decide_eq_false
      have below : (0x200 : Nat) ≠ 0x2278 + id.val * 0x10 := by omega
      exact below
    | preempt => rfl

/-- However accesses, events, hangs and resets follow each other until the next request: a request
that was made without a hang is pending for exactly as many reads as the latency says, and once a
request reads as done it stays done, unless a reset seizes it in between. If one does, the request
is pending at every read. -/
theorem pending_until_done (bit : PendingBit) (sim : Simulation) (steps : List HardwareStep)
    (unasked : Unasked bit steps) :
    (∀ request, bit.isRequest request = true → sim.hangFor bit = none →
      Unseized bit (sim.after request) steps →
      ∀ place seen, (polls bit (sim.after request) steps)[place]? = some seen →
        seen = decide (place < sim.latency)) ∧
    (Unseized bit sim steps →
      (polls bit sim steps).Pairwise fun earlier later => earlier = false → later = false) ∧
    ∀ reset, sim.seizes bit reset = true →
      ∀ seen ∈ polls bit (sim.after reset) steps, seen = true := by
  refine ⟨fun request requests free unseized place seen read => ?_, polls_pairwise unasked,
    fun reset seizes => ?_⟩
  · have made : (sim.after request).request bit = ⟨sim.latency, none⟩ := by
      rw [request_after requests, free]
    exact polls_of_left unasked unseized made read
  · apply polls_of_lasting unasked
    have moves := moves_after sim (isRequest_of_seizes seizes)
    rw [seizes] at moves
    generalize poll? bit sim reset = answer at moves
    generalize (sim.after reset).request bit = changed at moves ⊢
    cases moves
    rfl

/-- A list is pending for two reads, through a preempt request that hangs, a hang for another
runlist and a reset. -/
theorem pending_for_two_reads :
    (∀ place seen,
      (polls (.runlist ⟨0, by decide⟩) ((start 2).after (.write 0x2278 1))
        [.read 0x2400, .event (.hangPreempt .untilReset), .write Register.preempt 3,
          .event (.hangRunlist 1 .forever), .write Register.unitEnable 0xffffefff, .read 0x2400,
          .read 0x2400, .read 0x2400])[place]? = some seen → seen = decide (place < 2)) ∧
      (polls .preempt ((start 2).after (.write 0x2278 1))
        [.read 0x2400, .event (.hangPreempt .untilReset), .write Register.unitEnable 0xffffefff,
          .read Register.preempt, .read Register.preempt]).Pairwise
        (fun earlier later => earlier = false → later = false) ∧
      ∀ seen ∈ polls (.runlist ⟨0, by decide⟩)
          ((((start 2).after (.write 0x2278 1)).after (.event (.hangRunlist 0 .forever))).after
            (.write Register.unitEnable 0xffffefff)) [.read 0x2400, .read 0x2400],
        seen = true := by
  refine ⟨?_, ?_, ?_⟩
  · exact (pending_until_done (.runlist ⟨0, by decide⟩) (start 2) _ (by decide)).1
      (.write 0x2278 1) (by decide) (by decide) (by decide)
  · exact (pending_until_done .preempt ((start 2).after (.write 0x2278 1)) _ (by decide)).2.1
      (by decide)
  · exact (pending_until_done (.runlist ⟨0, by decide⟩)
      (((start 2).after (.write 0x2278 1)).after (.event (.hangRunlist 0 .forever))) _
      (by decide)).2.2 (.write Register.unitEnable 0xffffefff) (by decide)

/-- A list that was picked up is pending again after a reset, without another submission, because
a hang was set for its runlist in the meantime. -/
theorem pending_again_after_reset :
    (start 1).hangFor (.runlist ⟨0, by decide⟩) = none ∧
      Unasked (.runlist ⟨0, by decide⟩)
        [.read 0x2400, .read 0x2400, .event (.hangRunlist 0 .forever),
          .write Register.unitEnable 0xffffefff, .write Register.unitEnable 0xffffffff,
          .read 0x2400] ∧
      polls (.runlist ⟨0, by decide⟩) ((start 1).after (.write 0x2278 1))
          [.read 0x2400, .read 0x2400, .event (.hangRunlist 0 .forever),
            .write Register.unitEnable 0xffffefff, .write Register.unitEnable 0xffffffff,
            .read 0x2400] =
        [true, false, true] := by
  decide

end Simulation

end GpuSched
