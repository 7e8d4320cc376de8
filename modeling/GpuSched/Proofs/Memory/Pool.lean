import GpuSched.Memory.Pool
import GpuSched.Proofs.Contract
import Mathlib.Data.List.Nodup

/-!
# Where the buffers of a pool are

Since an earlier state of a pool each request has ended in one of three ways: its buffer is held,
its buffer was given back, or the request was refused. `Accounts` says which request ended how and
that the pool agrees, so that nothing is lost, given back twice or made up. Asking for a buffer and
giving one back each move one serial number.
-/
namespace GpuSched.MemoryPool

open Operation

/-- How the requests made between two states of a pool have ended. -/
structure Accounts (before after : MemoryPool) (held given refused : List Nat) : Prop where
  plan : after.plan = before.plan
  /-- Each request is held, given back or refused, and only one of these. -/
  requests : (List.range before.requested.length ++ (held ++ given ++ refused)).Perm
    (List.range after.requested.length)
  granted : ∀ serial ∈ held ++ given, ∃ physical, before.plan serial = .ok physical
  denied : ∀ serial ∈ refused, ∃ error, before.plan serial = .error error
  live : after.live.Perm (held ++ before.live)
  released : after.released.Perm (given ++ before.released)

namespace Accounts

variable {before pool : MemoryPool} {held given refused : List Nat}

/-- Without a request there is nothing to account for. -/
theorem refl (pool : MemoryPool) : pool.Accounts pool [] [] [] where
  plan := rfl
  requests := by rw [List.append_nil, List.append_nil, List.append_nil]
  granted := fun _ mem => by cases mem
  denied := fun _ mem => by cases mem
  live := .refl _
  released := .refl _

/-- The order in which serial numbers are listed does not matter. -/
theorem perm {held' given' : List Nat} (accounts : before.Accounts pool held given refused)
    (sameHeld : held'.Perm held) (sameGiven : given'.Perm given) :
    before.Accounts pool held' given' refused where
  plan := accounts.plan
  requests := (((sameHeld.append sameGiven).append_right _).append_left _).trans accounts.requests
  granted := fun serial mem => accounts.granted serial ((sameHeld.append sameGiven).mem_iff.mp mem)
  denied := accounts.denied
  live := accounts.live.trans (sameHeld.symm.append_right _)
  released := accounts.released.trans (sameGiven.symm.append_right _)

/-- No request ends in two ways. -/
theorem nodup (accounts : before.Accounts pool held given refused) :
    (held ++ given ++ refused).Nodup :=
  (List.nodup_append.mp (accounts.requests.nodup_iff.mpr List.nodup_range)).2.1

/-- A buffer that is asked for is held, or the request is refused as planned. -/
theorem yields_allocate (accounts : before.Accounts pool held given refused) (size : Nat) :
    (allocate size).Yields pool
      (fun buffer after => before.Accounts after (buffer.serial :: held) given refused)
      (fun failure after => ∃ error serial, failure = .refused error ∧
        before.plan serial = .error error ∧
        before.Accounts after held given (serial :: refused)) := by
  have serials := accounts.requests
  rw [List.perm_iff_count] at serials
  unfold allocate
  rw [yields_bind, yields_get]
  dsimp only
  split
  · rename_i physical planned
    rw [accounts.plan] at planned
    refine ⟨accounts.plan, ?_, ?_, accounts.denied, accounts.live.cons _, accounts.released⟩
    · rw [List.perm_iff_count]
      intro serial
      have count := serials serial
      simp only [List.length_cons, List.range_succ, List.count_append, List.cons_append,
        List.count_cons, List.count_nil] at count ⊢
      omega
    · intro serial mem
      rcases List.mem_cons.mp mem with rfl | earlier
      · exact ⟨physical, planned⟩
      · exact accounts.granted serial earlier
  · rename_i error planned
    rw [accounts.plan] at planned
    refine ⟨error, pool.requested.length, rfl, planned, accounts.plan, ?_, accounts.granted, ?_,
      accounts.live, accounts.released⟩
    · rw [List.perm_iff_count]
      intro serial
      have count := serials serial
      simp only [List.length_cons, List.range_succ, List.count_append, List.count_cons,
        List.count_nil] at count ⊢
      omega
    · intro serial mem
      rcases List.mem_cons.mp mem with rfl | earlier
      · exact ⟨error, planned⟩
      · exact accounts.denied serial earlier

/-- A buffer that is given back is no longer held. -/
theorem yields_release {buffer : DmaBuffer}
    (accounts : before.Accounts pool (buffer.serial :: held) given refused) :
    (release buffer).Yields pool
      (fun _ after => before.Accounts after held (buffer.serial :: given) refused)
      fun _ _ => False := by
  have moved : (held ++ buffer.serial :: given).Perm (buffer.serial :: held ++ given) :=
    List.perm_middle
  unfold release
  rw [yields_modify]
  refine ⟨accounts.plan, ?_, ?_, accounts.denied, ?_, accounts.released.cons _⟩
  · exact ((moved.append_right _).append_left _).trans accounts.requests
  · exact fun serial mem => accounts.granted serial (moved.mem_iff.mp mem)
  · have left := accounts.live.erase buffer.serial
    rwa [List.cons_append, List.erase_cons_head] at left

end Accounts

end GpuSched.MemoryPool
